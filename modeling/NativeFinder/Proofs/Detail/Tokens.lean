import Mathlib.Data.List.Sort
import NativeFinder.Proofs.Detail.Clear

/-!
# Which tokens a text has

Highlighting goes through a text once. What it finds can be said without the scan: the tokens of a
signature are its **function name** and the primitive types that **stand whole** in the rest of it
(`SignatureToken`), and those of a description its **annotations** (`DescriptionToken`). `places`
lists the tokens of some stretches with the places at which they begin, and `lists_signature` and
`lists_docTags` say that these are all the tokens of a text, in order and apart from each other.

The scan cuts a text only where no word goes on, and a word never stands across such a cut
(`wholeWordAt_append_iff`); so the tokens of a text are those of its two parts.
-/

namespace NativeFinder

namespace Highlight

open Text

/-! ### Tokens of a text -/

/-- A token, and where it begins in the text. -/
structure Place where
  start : Nat
  kind : TokenKind
  word : Text
deriving DecidableEq

namespace Place

/-- Where a token ends. -/
def stop (p : Place) : Nat := p.start + p.word.length

/-- The token by itself. -/
def token (p : Place) : TokenKind × Text := (p.kind, p.word)

/-- The token farther back in a text. -/
def shift (n : Nat) (p : Place) : Place := { p with start := n + p.start }

end Place

/-- A word **stands whole** at a place of a text: no word character stands right before or right
behind it. -/
def WholeWordAt (s : Text) (start : Nat) (word : Text) : Prop :=
  ∃ before after, s = before ++ (word ++ after) ∧ before.length = start ∧ IsWord word ∧
    Stops Character.isWord before.reverse ∧ Stops Character.isWord after

/-- The **function name** of a signature: the leading word, if a parenthesis follows it. -/
def IsFunctionName (s name : Text) : Prop := IsWord name ∧ ∃ rest, s = name ++ '(' :: rest

/-- The tokens of a signature: its function name, and the primitive types that stand whole behind
it, or anywhere if there is none. -/
inductive SignatureToken (s : Text) : Place → Prop
  | function {name : Text} (h : IsFunctionName s name) : SignatureToken s ⟨0, .function, name⟩
  | primitive {start : Nat} {word : Text} (h : WholeWordAt s start word)
      (hmem : word ∈ primitiveTypes) (hrest : ∀ name, IsFunctionName s name → name.length ≤ start) :
      SignatureToken s ⟨start, .primitive, word⟩

/-- The tokens of a description: every at sign with a word behind it, up to the end of the word. -/
inductive DescriptionToken (s : Text) : Place → Prop
  | mk {before word after : Text} (h : s = before ++ '@' :: (word ++ after)) (hword : IsWord word)
      (hafter : Stops Character.isWord after) :
      DescriptionToken s ⟨before.length, .docTag, '@' :: word⟩

/-- The tokens of some stretches, the first of which begins at `start`. -/
def placesFrom (start : Nat) : List Stretch → List Place
  | [] => []
  | .plain s :: rest => placesFrom (start + s.length) rest
  | .token kind word :: rest => ⟨start, kind, word⟩ :: placesFrom (start + word.length) rest

/-- The tokens of some stretches. -/
def places (stretches : List Stretch) : List Place := placesFrom 0 stretches

/-- A **list of all tokens** of a kind, in order and apart from each other. -/
structure Lists (Token : Place → Prop) (ps : List Place) : Prop where
  mem_iff : ∀ p, p ∈ ps ↔ Token p
  pairwise : ps.Pairwise fun p q => p.stop ≤ q.start

variable {s a b word : Text} {stretches : List Stretch} {start : Nat} {p : Place}

theorem SignatureToken.ne_nil (h : SignatureToken s p) : p.word ≠ [] := by
  cases h with
  | function h => exact h.1.ne_nil
  | primitive h =>
    obtain ⟨_, _, -, -, hword, -⟩ := h
    exact hword.ne_nil

theorem DescriptionToken.ne_nil (h : DescriptionToken s p) : p.word ≠ [] := by
  cases h
  exact List.cons_ne_nil _ _

/-- **There is only one list** of all tokens of a kind, if none of them is empty. -/
theorem Lists.unique {Token : Place → Prop} {ps qs : List Place} (hps : Lists Token ps)
    (hqs : Lists Token qs) (hne : ∀ p, Token p → p.word ≠ []) : ps = qs := by
  have : Std.Irrefl fun p q : Place => p.start < q.start := ⟨fun p => Nat.lt_irrefl p.start⟩
  have : Std.Antisymm fun p q : Place => p.start < q.start :=
    ⟨fun p q hpq hqp => absurd hqp (Nat.lt_asymm hpq)⟩
  have hsorted {ps : List Place} (h : Lists Token ps) :
      ps.Pairwise fun p q => p.start < q.start := by
    refine h.pairwise.imp_of_mem fun {p q} hp _ hpq => ?_
    have hpos := List.length_pos_iff.mpr (hne p ((h.mem_iff p).mp hp))
    simp only [Place.stop] at hpq
    omega
  exact (hsorted hps).eq_of_mem_iff (hsorted hqs) fun p =>
    (hps.mem_iff p).trans (hqs.mem_iff p).symm

/-! ### Places -/

theorem placesFrom_eq_map (start : Nat) (stretches : List Stretch) :
    placesFrom start stretches = (places stretches).map (Place.shift start) := by
  have hshift (n m : Nat) (rest : List Stretch) :
      placesFrom (n + m) rest = (placesFrom m rest).map (Place.shift n) := by
    induction rest generalizing m with
    | nil => rfl
    | cons stretch rest ih =>
      cases stretch with
      | plain s => simp only [placesFrom, Nat.add_assoc, ih]
      | token kind word => simp only [placesFrom, Nat.add_assoc, ih, List.map_cons, Place.shift]
  exact hshift start 0 stretches

theorem places_plain_cons (s : Text) (rest : List Stretch) :
    places (.plain s :: rest) = (places rest).map (Place.shift s.length) := by
  rw [← placesFrom_eq_map, places, placesFrom, Nat.zero_add]

theorem places_token_cons (kind : TokenKind) (word : Text) (rest : List Stretch) :
    places (.token kind word :: rest) =
      ⟨0, kind, word⟩ :: (places rest).map (Place.shift word.length) := by
  rw [← placesFrom_eq_map, places, placesFrom, Nat.zero_add]

/-- Tokens stand in order and apart from each other. -/
theorem pairwise_places (stretches : List Stretch) :
    (places stretches).Pairwise fun p q => p.stop ≤ q.start := by
  induction stretches with
  | nil => exact List.Pairwise.nil
  | cons stretch rest ih =>
    have hshift (n : Nat) :
        ((places rest).map (Place.shift n)).Pairwise fun p q => p.stop ≤ q.start := by
      refine List.pairwise_map.mpr (ih.imp fun {p q} hpq => ?_)
      simp only [Place.shift, Place.stop] at hpq ⊢
      omega
    cases stretch with
    | plain s =>
      rw [places_plain_cons]
      exact hshift _
    | token kind word =>
      rw [places_token_cons]
      refine List.pairwise_cons.mpr ⟨fun q hq => ?_, hshift _⟩
      obtain ⟨q, -, rfl⟩ := List.mem_map.mp hq
      simp only [Place.shift, Place.stop]
      omega

theorem mem_map_shift_iff {n : Nat} {ps : List Place} :
    p ∈ ps.map (Place.shift n) ↔ ∃ start, p.start = n + start ∧ ⟨start, p.kind, p.word⟩ ∈ ps := by
  rw [List.mem_map]
  constructor
  · rintro ⟨q, hq, rfl⟩
    exact ⟨q.start, rfl, hq⟩
  · rintro ⟨start, hstart, hmem⟩
    exact ⟨_, hmem, by simp [Place.shift, ← hstart]⟩

/-! ### Words -/

theorem wholeWordAt_nil : ¬ WholeWordAt [] start word := by
  rintro ⟨before, after, heq, -, hword, -⟩
  exact hword.ne_nil (List.append_eq_nil_iff.mp (List.append_eq_nil_iff.mp heq.symm).2).1

theorem not_stops_reverse_append_word (h : IsWord word) (before : Text) :
    ¬ Stops Character.isWord (before ++ word).reverse := by
  rw [List.reverse_append, stops_append (by simpa using h.ne_nil)]
  exact IsRun.not_stops ⟨by simpa using h.ne_nil, fun c hc => h.all c (List.mem_reverse.mp hc)⟩

theorem not_stops_word_append (h : IsWord word) (after : Text) :
    ¬ Stops Character.isWord (word ++ after) := by
  rw [stops_append h.ne_nil]
  exact h.not_stops

/-- **No word stands across a cut** where none goes on. -/
theorem wholeWordAt_append_iff (h : Stops Character.isWord a.reverse ∨ Stops Character.isWord b) :
    WholeWordAt (a ++ b) start word ↔
      WholeWordAt a start word ∨ ∃ i, start = a.length + i ∧ WholeWordAt b i word := by
  constructor
  · rintro ⟨before, after, heq, rfl, hword, hbefore, hafter⟩
    rcases List.append_eq_append_iff.mp heq with ⟨x, rfl, rfl⟩ | ⟨x, rfl, hb⟩
    · -- the word begins behind the cut
      refine .inr ⟨x.length, by simp, x, after, rfl, rfl, hword, ?_, hafter⟩
      cases hx : x.reverse with
      | nil => exact stops_nil
      | cons c y =>
        rw [List.reverse_append, hx] at hbefore
        exact stops_cons.mpr (stops_cons.mp hbefore)
    · rcases List.append_eq_append_iff.mp hb with ⟨y, rfl, rfl⟩ | ⟨y, rfl, rfl⟩
      · -- the word ends before the cut
        refine .inl ⟨before, y, rfl, rfl, hword, hbefore, ?_⟩
        cases y with
        | nil => exact stops_nil
        | cons c y => exact stops_cons.mpr (stops_cons.mp hafter)
      · -- a part of the word stands before the cut, so that no part of it may stand behind
        by_cases hx : x = []
        · subst hx
          exact .inr ⟨0, by simp, [], after, rfl, rfl, hword, stops_nil, hafter⟩
        · by_cases hy : y = []
          · subst hy
            exact .inl ⟨before, [], by simp, rfl, hword, hbefore, stops_nil⟩
          · have hleft : IsWord x := ⟨hx, fun c hc => hword.all c (List.mem_append_left y hc)⟩
            have hright : IsWord y := ⟨hy, fun c hc => hword.all c (List.mem_append_right x hc)⟩
            exact (h.elim (not_stops_reverse_append_word hleft before)
              (not_stops_word_append hright after)).elim
  · rintro (⟨before, after, rfl, rfl, hword, hbefore, hafter⟩ |
      ⟨_, rfl, before, after, rfl, rfl, hword, hbefore, hafter⟩)
    · refine ⟨before, after ++ b, by simp, rfl, hword, hbefore, ?_⟩
      by_cases hnil : after = []
      · subst hnil
        refine h.resolve_left ?_
        simpa using not_stops_reverse_append_word hword before
      · rwa [stops_append hnil]
    · refine ⟨a ++ before, after, by simp, by simp, hword, ?_, hafter⟩
      by_cases hnil : before = []
      · subst hnil
        simpa using h.resolve_right (not_stops_word_append hword after)
      · rwa [List.reverse_append, stops_append (by simpa using hnil)]

/-- A word has no part that stands whole but itself. -/
theorem wholeWordAt_word_iff (h : IsWord a) : WholeWordAt a start word ↔ start = 0 ∧ word = a := by
  constructor
  · rintro ⟨before, after, rfl, rfl, hword, hbefore, hafter⟩
    have hall : ∀ c ∈ before ++ (word ++ after), Character.isWord c = true := h.all
    obtain rfl : before = [] := by
      by_contra hne
      have hrun : IsWord before := ⟨hne, fun c hc => hall c (List.mem_append_left _ hc)⟩
      exact not_stops_reverse_append_word hrun [] hbefore
    obtain rfl : after = [] := by
      by_contra hne
      exact IsRun.not_stops ⟨hne, fun c hc => hall c (by simp [hc])⟩ hafter
    simp
  · rintro ⟨rfl, rfl⟩
    exact ⟨[], [], by simp, rfl, h, stops_nil, stops_nil⟩

theorem not_wholeWordAt_singleton {c : Char} (hc : Character.isWord c = false) :
    ¬ WholeWordAt [c] start word := by
  rintro ⟨before, after, heq, -, hword, -⟩
  obtain ⟨d, hd⟩ := List.exists_mem_of_ne_nil word hword.ne_nil
  have hmem : d ∈ [c] := heq ▸ List.mem_append_right before (List.mem_append_left after hd)
  obtain rfl := List.mem_singleton.mp hmem
  simp [hword.all d hd] at hc

/-- **The primitive types of a text** are those that stand whole in it. -/
theorem mem_places_primitives_iff (s : Text) :
    p ∈ places (primitives s) ↔
      p.kind = .primitive ∧ p.word ∈ primitiveTypes ∧ WholeWordAt s p.start p.word := by
  fun_induction primitives s generalizing p with
  | case1 => simp [places, placesFrom, wholeWordAt_nil]
  | case2 c t word rest hword _ ih =>
    obtain ⟨heq, hrun, hrest⟩ := takeRun?_eq_some_iff.mp hword
    rw [heq, wholeWordAt_append_iff (.inr hrest), wholeWordAt_word_iff hrun]
    have hmem : p ∈ (places (primitives rest)).map (Place.shift word.length) ↔
        p.kind = .primitive ∧ p.word ∈ primitiveTypes ∧
          ∃ i, p.start = word.length + i ∧ WholeWordAt rest i p.word := by
      rw [mem_map_shift_iff]
      simp only [ih]
      grind
    split
    · rename_i hprimitive
      rw [places_token_cons, List.mem_cons, hmem]
      cases p
      grind
    · rename_i hprimitive
      rw [places_plain_cons, hmem]
      grind
  | case3 c t hword ih =>
    have hc : Character.isWord c = false := stops_cons.mp (takeRun?_eq_none_iff.mp hword)
    have hsplit : WholeWordAt (c :: t) p.start p.word ↔
        WholeWordAt [c] p.start p.word ∨ ∃ i, p.start = 1 + i ∧ WholeWordAt t i p.word :=
      wholeWordAt_append_iff (a := [c]) (.inl (stops_cons.mpr hc))
    rw [hsplit, places_plain_cons, mem_map_shift_iff]
    simp only [ih, not_wholeWordAt_singleton hc, false_or, List.length_singleton]
    grind

/-! ### Signatures -/

/-- The function name is the word that is cut off in front of a parenthesis. -/
theorem isFunctionName_iff :
    IsFunctionName s word ↔ ∃ rest, takeWord? s = some (word, '(' :: rest) := by
  constructor
  · rintro ⟨hword, rest, rfl⟩
    exact ⟨rest, takeRun?_eq_some_iff.mpr ⟨rfl, hword, stops_cons.mpr (by decide)⟩⟩
  · rintro ⟨rest, h⟩
    obtain ⟨rfl, hword, -⟩ := takeRun?_eq_some_iff.mp h
    exact ⟨hword, rest, rfl⟩

theorem signatureToken_iff : SignatureToken s p ↔
    (IsFunctionName s p.word ∧ p = ⟨0, .function, p.word⟩) ∨
      (p.kind = .primitive ∧ p.word ∈ primitiveTypes ∧ WholeWordAt s p.start p.word ∧
        ∀ name, IsFunctionName s name → name.length ≤ p.start) := by
  constructor
  · rintro (h | ⟨h, hmem, hrest⟩)
    · exact .inl ⟨h, rfl⟩
    · exact .inr ⟨rfl, hmem, h, hrest⟩
  · rintro (⟨h, heq⟩ | ⟨hkind, hmem, h, hrest⟩)
    · rw [heq]
      exact .function h
    · obtain ⟨start, kind, word⟩ := p
      obtain rfl : kind = .primitive := hkind
      exact .primitive h hmem hrest

/-- **The tokens of a signature**, all of them in order. -/
theorem lists_signature (s : Text) : Lists (SignatureToken s) (places (signature s)) := by
  refine ⟨fun p => ?_, pairwise_places _⟩
  rw [signatureToken_iff]
  by_cases hcall : ∃ word rest, takeWord? s = some (word, '(' :: rest)
  · obtain ⟨word, rest, hs⟩ := hcall
    obtain ⟨heq, hword, hrest⟩ := takeRun?_eq_some_iff.mp hs
    have hname (name : Text) : IsFunctionName s name ↔ name = word := by
      rw [isFunctionName_iff, hs]
      simp [eq_comm]
    have hwhole : WholeWordAt s p.start p.word ∧ word.length ≤ p.start ↔
        ∃ i, p.start = word.length + i ∧ WholeWordAt ('(' :: rest) i p.word := by
      rw [heq, wholeWordAt_append_iff (.inr hrest), wholeWordAt_word_iff hword]
      have hpos := List.length_pos_iff.mpr hword.ne_nil
      constructor
      · rintro ⟨⟨hzero, -⟩ | h, hle⟩
        · omega
        · exact h
      · rintro ⟨i, hi, h⟩
        exact ⟨.inr ⟨i, hi, h⟩, by omega⟩
    rw [signature_of_call hs, places_token_cons, List.mem_cons, mem_map_shift_iff]
    simp only [mem_places_primitives_iff, hname, forall_eq, hwhole]
    obtain ⟨start, kind, token⟩ := p
    grind
  · rw [signature_of_not_call (by simpa using hcall), mem_places_primitives_iff]
    have hname (name : Text) : ¬ IsFunctionName s name := by
      rw [isFunctionName_iff]
      exact fun ⟨rest, h⟩ => hcall ⟨name, rest, h⟩
    simp [hname]

/-! ### Descriptions -/

/-- An annotation begins with the first character of a text or behind it. -/
theorem descriptionToken_cons_iff {c : Char} : DescriptionToken (c :: s) p ↔
    (∃ word rest, c = '@' ∧ takeWord? s = some (word, rest) ∧ p = ⟨0, .docTag, '@' :: word⟩) ∨
      ∃ i, p.start = 1 + i ∧ DescriptionToken s ⟨i, p.kind, p.word⟩ := by
  constructor
  · rintro ⟨heq, hword, hafter⟩
    rename_i before word after
    cases before with
    | nil =>
      obtain ⟨rfl, rfl⟩ := List.cons.inj heq
      exact .inl ⟨word, after, rfl, takeRun?_eq_some_iff.mpr ⟨rfl, hword, hafter⟩, rfl⟩
    | cons d before =>
      obtain ⟨-, rfl⟩ := List.cons.inj heq
      exact .inr ⟨before.length, by simp [Nat.add_comm], .mk rfl hword hafter⟩
  · rintro (⟨word, rest, rfl, hs, rfl⟩ | ⟨i, hi, h⟩)
    · obtain ⟨rfl, hword, hrest⟩ := takeRun?_eq_some_iff.mp hs
      exact @DescriptionToken.mk _ [] _ _ rfl hword hrest
    · obtain ⟨start, kind, token⟩ := p
      obtain rfl : start = 1 + i := hi
      obtain ⟨rfl, hword, hafter⟩ := h
      rename_i before word after
      rw [show (⟨1 + before.length, .docTag, '@' :: word⟩ : Place) =
        ⟨(c :: before).length, .docTag, '@' :: word⟩ by simp [Nat.add_comm]]
      exact .mk rfl hword hafter

/-- No annotation begins in a text without at signs. -/
theorem descriptionToken_append_iff (h : '@' ∉ a) : DescriptionToken (a ++ b) p ↔
    ∃ i, p.start = a.length + i ∧ DescriptionToken b ⟨i, p.kind, p.word⟩ := by
  induction a generalizing p with
  | nil => simp
  | cons c a ih =>
    obtain ⟨hc, ha⟩ : c ≠ '@' ∧ '@' ∉ a := by simpa [eq_comm] using h
    rw [List.cons_append, descriptionToken_cons_iff]
    simp only [hc, false_and, exists_false, false_or, ih ha, List.length_cons]
    grind

theorem mem_places_docTags_iff (s : Text) : p ∈ places (docTags s) ↔ DescriptionToken s p := by
  fun_induction docTags s generalizing p with
  | case1 =>
    refine iff_of_false (by simp [places, placesFrom]) ?_
    rintro ⟨heq, -, -⟩
    simp at heq
  | case2 t word rest hword _ ih =>
    obtain ⟨rfl, hrun, -⟩ := takeRun?_eq_some_iff.mp hword
    have hat : '@' ∉ word := fun hmem => absurd (hrun.all '@' hmem) (by decide)
    rw [places_token_cons, List.mem_cons, mem_map_shift_iff, descriptionToken_cons_iff, hword]
    simp only [ih, descriptionToken_append_iff hat, List.length_cons]
    grind
  | case3 t hword ih =>
    rw [places_plain_cons, mem_map_shift_iff, descriptionToken_cons_iff, hword]
    simp [ih]
  | case4 c t hc ih =>
    rw [places_plain_cons, mem_map_shift_iff, descriptionToken_cons_iff]
    simp [ih, hc]

/-- **The tokens of a text that is highlighted as a description**, all of them in order. -/
theorem lists_docTags (s : Text) : Lists (DescriptionToken s) (places (docTags s)) :=
  ⟨fun _ => mem_places_docTags_iff s, pairwise_places _⟩

end Highlight

end NativeFinder
