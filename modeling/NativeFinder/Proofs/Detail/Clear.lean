import NativeFinder.Proofs.Detail.Highlighting
import NativeFinder.Proofs.Markup.Escaping

/-!
# Clear texts

Escaping does not look at the tokens of a text. A backslash in front of a token stays as it is, and
with an odd number of them an opening mark in front of the token would be read as text. A text is
**clear** if this happens nowhere (`isClear`).

Clearness can be read off the text before it is escaped: `isClear_signature_escape` and
`isClear_docTags_escape`. For escaping changes the backslashes before tags only, and no token begins
where a tag does (`SameSlashes`).
-/

namespace NativeFinder

open Markup (oddSlashes guarded)

namespace Highlight

/-! ### Clear texts -/

/-- Whether no token stands directly behind an odd number of backslashes. The first argument says
whether an odd number of them stands before the stretches. -/
def isClear (odd : Bool) : List Stretch → Bool
  | [] => true
  | .plain s :: rest => isClear (oddSlashes odd s) rest
  | .token _ _ :: rest => !odd && isClear false rest

variable {s t : Text} {stretches : List Stretch} {odd odd' : Bool}

theorem oddSlashes_word {word : Text} (h : Text.IsWord word) (odd : Bool) :
    oddSlashes odd word = false :=
  Markup.oddSlashes_of_plain (fun c hc => (Markup.ne_of_isWord (h.all c hc)).1) h.ne_nil odd

/-! ### Highlighting an escaped text -/

theorem primitives_of_word {word rest : Text} (h : Text.takeWord? s = some (word, rest)) :
    primitives s =
      (if word ∈ primitiveTypes then .token .primitive word else .plain word) ::
        primitives rest := by
  cases s with
  | nil => cases h
  | cons c s =>
    rw [primitives]
    split
    · rename_i heq
      obtain ⟨rfl, rfl⟩ := Prod.mk.inj (Option.some.inj (heq.symm.trans h))
      rfl
    · rename_i heq
      cases heq.symm.trans h

theorem primitives_of_not_word {c : Char} (h : Character.isWord c = false) (s : Text) :
    primitives (c :: s) = .plain [c] :: primitives s := by
  have hnone : Text.takeWord? (c :: s) = none :=
    Text.takeRun?_eq_none_iff.mpr (Text.stops_cons.mpr h)
  rw [primitives]
  split
  · rename_i heq
    cases heq.symm.trans hnone
  · rfl

theorem docTags_of_word {word rest : Text} (h : Text.takeWord? s = some (word, rest)) :
    docTags ('@' :: s) = .token .docTag ('@' :: word) :: docTags rest := by
  rw [docTags, if_pos rfl]
  split
  · rename_i heq
    obtain ⟨rfl, rfl⟩ := Prod.mk.inj (Option.some.inj (heq.symm.trans h))
    rfl
  · rename_i heq
    cases heq.symm.trans h

theorem docTags_of_not_word {c : Char} (h : c ≠ '@' ∨ Text.takeWord? s = none) :
    docTags (c :: s) = .plain [c] :: docTags s := by
  rw [docTags]
  split
  · rename_i hc
    have hnone := h.resolve_left fun hne => hne hc
    split
    · rename_i heq
      cases heq.symm.trans hnone
    · rfl
  · rfl

/-- **Highlighting a call**: a signature whose first word a parenthesis follows. -/
theorem signature_of_call {word rest : Text} (h : Text.takeWord? s = some (word, '(' :: rest)) :
    signature s = .token .function word :: primitives ('(' :: rest) := by
  simp [signature, splitFunction, h]

theorem signature_of_not_call (h : ∀ word rest, Text.takeWord? s ≠ some (word, '(' :: rest)) :
    signature s = primitives s := by
  unfold signature splitFunction
  split
  · rename_i heq
    split at heq
    · exact absurd ‹_› (h _ _)
    · obtain ⟨rfl, rfl⟩ := Prod.mk.inj heq
      rfl

/-- Backslashes before a tag may be added: no token stands behind them. -/
def SameSlashes (s : Text) (odd odd' : Bool) : Prop :=
  (Markup.tag? s).isSome = true ∨ odd = odd'

theorem SameSlashes.eq {c : Char} (h : SameSlashes (c :: s) odd odd') (hslash : c ≠ '\\')
    (hopen : c ≠ '[') : odd = odd' :=
  h.resolve_left (by simp [Markup.tag?_of_ne hslash hopen])

/-- **One character** that is not marked keeps a text clear when it is guarded. -/
theorem isClear_guarded_cons {F : Text → List Stretch} {c : Char} {s t : Text}
    (hs : F (c :: s) = .plain [c] :: F s)
    (ht : F (c :: (guarded s ++ t)) = .plain [c] :: F (guarded s ++ t))
    (hslash : ∀ u, F ('\\' :: u) = .plain ['\\'] :: F u)
    (ih : ∀ {odd odd'}, SameSlashes s odd odd' →
      isClear odd' (F (guarded s ++ t)) = isClear odd (F s))
    (h : SameSlashes (c :: s) odd odd') :
    isClear odd' (F (guarded (c :: s) ++ t)) = isClear odd (F (c :: s)) := by
  rw [guarded]
  split
  · rename_i htag
    rw [List.cons_append, List.cons_append, hslash, ht, hs]
    refine ih ?_
    by_cases hc : c = '\\'
    · exact .inl (by rwa [hc, Markup.isSome_tag?_slash] at htag)
    · exact .inr (by simp [beq_eq_false_iff_ne.mpr hc])
  · rename_i htag
    rw [List.cons_append, ht, hs]
    exact ih (.inr (by rw [h.resolve_left htag]))

section Tail

variable (ht : t = [] ∨ t = ['\\'])

include ht

theorem stops_isWord_of_tail : Text.Stops Character.isWord t := by
  rcases ht with rfl | rfl
  · exact Text.stops_nil
  · exact Text.stops_cons.mpr (by decide)

/-- What stands behind a word of a guarded text is guarded too. -/
theorem takeWord?_guarded_tail (s : Text) : Text.takeWord? (guarded s ++ t) =
    (Text.takeWord? s).map fun (word, rest) => (word, guarded rest ++ t) :=
  Markup.takeWord?_guarded_append s (stops_isWord_of_tail ht)

theorem isClear_primitives_guarded (h : SameSlashes s odd odd') :
    isClear odd' (primitives (guarded s ++ t)) = isClear odd (primitives s) := by
  have hslash (u : Text) : primitives ('\\' :: u) = .plain ['\\'] :: primitives u :=
    primitives_of_not_word (by decide) u
  -- the two counts of backslashes may differ only in front of a tag, where no word begins
  fun_induction primitives s generalizing odd odd' with
  | case1 =>
    rcases ht with rfl | rfl
    · simp [primitives, guarded, isClear]
    · simp [hslash, primitives, guarded, isClear]
  | case2 c s word rest hword _ ih =>
    obtain ⟨heq, hrun, -⟩ := Text.takeRun?_eq_some_iff.mp hword
    have hc : Character.isWord c = true := by
      obtain ⟨d, word, rfl⟩ := List.exists_cons_of_ne_nil hrun.ne_nil
      exact (List.cons.inj heq).1 ▸ hrun.all d (List.mem_cons_self ..)
    obtain ⟨hne, hopen⟩ := Markup.ne_of_isWord hc
    have hword' := takeWord?_guarded_tail ht (c :: s)
    rw [hword] at hword'
    obtain rfl := h.eq hne hopen
    have hrest : isClear false (primitives (guarded rest ++ t)) = isClear false (primitives rest) :=
      ih (.inr rfl)
    rw [primitives_of_word hword']
    split
    · simp only [isClear, hrest]
    · simp only [isClear, oddSlashes_word hrun, hrest]
  | case3 c s hword ih =>
    have hc : Character.isWord c = false := Text.stops_cons.mp (Text.takeRun?_eq_none_iff.mp hword)
    have hcons := primitives_of_not_word hc s
    rw [← hcons]
    exact isClear_guarded_cons hcons (primitives_of_not_word hc _) hslash ih h

theorem isClear_docTags_guarded (h : SameSlashes s odd odd') :
    isClear odd' (docTags (guarded s ++ t)) = isClear odd (docTags s) := by
  have hslash (u : Text) : docTags ('\\' :: u) = .plain ['\\'] :: docTags u :=
    docTags_of_not_word (.inl (by decide))
  fun_induction docTags s generalizing odd odd' with
  | case1 =>
    rcases ht with rfl | rfl
    · simp [docTags, guarded, isClear]
    · simp [hslash, docTags, guarded, isClear]
  | case2 s word rest hword _ ih =>
    have hword' := takeWord?_guarded_tail ht s
    rw [hword] at hword'
    obtain rfl := h.eq (by decide) (by decide)
    have hrest : isClear false (docTags (guarded rest ++ t)) = isClear false (docTags rest) :=
      ih (.inr rfl)
    rw [Markup.guarded_of_ne (by decide) (by decide), List.cons_append, docTags_of_word hword']
    simp only [isClear, hrest]
  | case3 s hword ih =>
    have hword' := takeWord?_guarded_tail ht s
    rw [hword] at hword'
    have hcons := docTags_of_not_word (c := '@') (.inr hword)
    rw [← hcons]
    exact isClear_guarded_cons hcons (docTags_of_not_word (.inr hword')) hslash ih h
  | case4 c s hc ih =>
    have hcons : docTags (c :: s) = .plain [c] :: docTags s := docTags_of_not_word (.inl hc)
    rw [← hcons]
    exact isClear_guarded_cons hcons (docTags_of_not_word (.inl hc)) hslash ih h

theorem isClear_signature_guarded (s : Text) :
    isClear false (signature (guarded s ++ t)) = isClear false (signature s) := by
  have hword := takeWord?_guarded_tail ht s
  by_cases hcall : ∃ word rest, Text.takeWord? s = some (word, '(' :: rest)
  · obtain ⟨word, rest, hs⟩ := hcall
    have hopen : guarded ('(' :: rest) = '(' :: guarded rest :=
      Markup.guarded_of_ne (by decide) (by decide) rest
    have hcall' : Text.takeWord? (guarded s ++ t) = some (word, '(' :: (guarded rest ++ t)) := by
      simpa [hs, hopen] using hword
    have hrest : isClear false (primitives (guarded ('(' :: rest) ++ t)) =
        isClear false (primitives ('(' :: rest)) := isClear_primitives_guarded ht (.inr rfl)
    rw [hopen] at hrest
    rw [signature_of_call hs, signature_of_call hcall']
    exact hrest
  · rw [signature_of_not_call (s := s) (by simpa using hcall), signature_of_not_call]
    · exact isClear_primitives_guarded ht (.inr rfl)
    · -- the parenthesis behind the word would stand in the text itself
      intro word rest heq
      rw [hword] at heq
      obtain ⟨⟨w, r⟩, hs, hpair⟩ := Option.map_eq_some_iff.mp heq
      obtain ⟨rfl, hrest⟩ := Prod.mk.inj hpair
      refine hcall ?_
      cases r with
      | nil => rcases ht with rfl | rfl <;> simp [guarded] at hrest
      | cons c r =>
        rw [guarded] at hrest
        split at hrest
        · simp at hrest
        · obtain ⟨rfl, -⟩ := List.cons.inj hrest
          exact ⟨w, r, hs⟩

end Tail

/-- **Escaping keeps a signature clear**, and makes none clear. -/
theorem isClear_signature_escape (s : Text) :
    isClear false (signature (Markup.escape s)) = isClear false (signature s) := by
  obtain ⟨t, ht, heq⟩ := Markup.escape_eq s
  rw [heq, isClear_signature_guarded ht]

theorem isClear_docTags_escape (s : Text) :
    isClear false (docTags (Markup.escape s)) = isClear false (docTags s) := by
  obtain ⟨t, ht, heq⟩ := Markup.escape_eq s
  rw [heq, isClear_docTags_guarded ht (.inr rfl)]

end Highlight

end NativeFinder
