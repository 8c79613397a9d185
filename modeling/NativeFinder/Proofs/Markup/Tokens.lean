import NativeFinder.Proofs.Markup.Tags

/-!
# The tokens of a markup text with a tag behind it

Markup is often made by putting tags around a text. Its tokens are then those of the text and those
of what is behind it (`tokens_append`), provided that the text does not end with a backslash, which
would belong to the tag. A bracket that the text leaves open is no obstacle: the bracket of the tag
is in its way.

A text has a tag among its tokens exactly if it holds one, whatever stands around the tag
(`exists_tag_mem_tokens_iff`), and a text without tags is one plain token (`tokens_of_plain`).
-/

namespace NativeFinder

namespace Markup

variable {s t body rest : Text} {slashes : Nat}

/-! ### What is read behind a text -/

theorem body?_append_of_eq_none (hs : body? s = none) (ht : body? t = none) :
    body? (s ++ t) = none := by
  fun_induction body? s with
  | case1 => exact ht
  | case2 s => cases hs
  | case3 s => rfl
  | case4 c s hclose hopen ih =>
    rw [List.cons_append, body?, Option.map_eq_none_iff]
    · exact ih (Option.map_eq_none_iff.mp hs)
    · exact hclose
    · exact hopen

/-- **A tag with its backslashes** is read from the front of a text. -/
theorem tag?_tag (h : IsBody body) (slashes : Nat) (rest : Text) :
    tag? (List.replicate slashes '\\' ++ '[' :: (body ++ ']' :: rest)) =
      some (slashes, body, rest) := by
  induction slashes with
  | zero => exact tag?_open_eq_some_iff.mpr ⟨body, rest, rfl, rfl, h⟩
  | succ n ih => rw [List.replicate_succ, List.cons_append, tag?_slash, ih, Option.map_some]

theorem tag?_append_of_eq_some (h : tag? s = some (slashes, body, rest)) (t : Text) :
    tag? (s ++ t) = some (slashes, body, rest ++ t) := by
  obtain ⟨rfl, hbody⟩ := isBody_of_tag? h
  simpa using tag?_tag hbody slashes (rest ++ t)

/-- A tag does not close a bracket before it. -/
theorem body?_eq_none_of_isSome_tag? (h : (tag? t).isSome = true) : body? t = none := by
  obtain ⟨⟨slashes, body, rest⟩, htag⟩ := Option.isSome_iff_exists.mp h
  obtain ⟨rfl, -⟩ := isBody_of_tag? htag
  clear htag h
  induction slashes with
  | zero => rfl
  | succ n ih => rw [List.replicate_succ, List.cons_append, body?, ih, Option.map_none] <;> simp

/-- A tag does not open a bracket before it. -/
theorem tag?_open_eq_none_of_isSome_tag? (h : (tag? t).isSome = true) : tag? ('[' :: t) = none := by
  obtain ⟨⟨slashes, body, rest⟩, htag⟩ := Option.isSome_iff_exists.mp h
  obtain ⟨rfl, -⟩ := isBody_of_tag? htag
  cases slashes with
  | zero => rfl
  | succ n => rfl

/-- **No tag comes into being** where a tag is put behind a text, unless a backslash stands
there. -/
theorem tag?_append_of_eq_none (hs : tag? s = none) (hne : s ≠ []) (hlast : ¬ ['\\'] <:+ s)
    (ht : (tag? t).isSome = true) : tag? (s ++ t) = none := by
  induction s with
  | nil => exact absurd rfl hne
  | cons c s ih =>
    by_cases hslash : c = '\\'
    · subst hslash
      have hrest : s ≠ [] := by
        rintro rfl
        exact hlast List.suffix_rfl
      rw [tag?_slash, Option.map_eq_none_iff] at hs
      rw [List.cons_append, tag?_slash, Option.map_eq_none_iff]
      exact ih hs hrest fun h => hlast (h.trans (List.suffix_cons _ s))
    · by_cases hopen : c = '['
      · subst hopen
        cases s with
        | nil => exact tag?_open_eq_none_of_isSome_tag? ht
        | cons d s =>
          simp only [List.cons_append, tag?] at hs ⊢
          split
          · rename_i hd
            rw [if_pos hd, Option.map_eq_none_iff] at hs
            rw [Option.map_eq_none_iff]
            exact body?_append_of_eq_none hs (body?_eq_none_of_isSome_tag? ht)
          · rfl
      · exact tag?_of_ne hslash hopen _

/-! ### Tokens -/

theorem tokens_of_tag (h : tag? s = some (slashes, body, rest)) :
    tokens s = .tag slashes body :: tokens rest := by
  cases s with
  | nil => cases h
  | cons c s =>
    rw [tokens]
    split
    · rename_i heq
      obtain ⟨rfl, rfl, rfl⟩ : _ = slashes ∧ _ = body ∧ _ = rest := by
        simpa using heq.symm.trans h
      rfl
    · rename_i heq
      cases heq.symm.trans h

theorem tokens_cons_of_eq_none {c : Char} (h : tag? (c :: s) = none) :
    tokens (c :: s) = consPlain c (tokens s) := by
  rw [tokens]
  split
  · rename_i heq
    cases heq.symm.trans h
  · rfl

/-- **The tokens of a text with a tag behind it** are those of the text and of the rest. -/
theorem tokens_append (hlast : ¬ ['\\'] <:+ s) (ht : (tag? t).isSome = true) :
    tokens (s ++ t) = tokens s ++ tokens t := by
  obtain ⟨⟨slashes, body, rest⟩, htag⟩ := Option.isSome_iff_exists.mp ht
  fun_induction tokens s with
  | case1 => rfl
  | case2 c s slashes' body' rest' h _ ih =>
    have hlast' : ¬ ['\\'] <:+ rest' := fun hrest =>
      hlast (hrest.trans ⟨_, (eq_append_of_tag? h).symm⟩)
    rw [tokens_of_tag (tag?_append_of_eq_some h t), ih hlast', List.cons_append]
  | case3 c s h ih =>
    have hlast' : ¬ ['\\'] <:+ s := fun hs => hlast (hs.trans (List.suffix_cons c s))
    have hnone : tag? (c :: (s ++ t)) = none :=
      tag?_append_of_eq_none h (List.cons_ne_nil c s) hlast ht
    rw [List.cons_append, tokens_cons_of_eq_none hnone, ih hlast']
    cases hs : tokens s with
    | nil => rw [List.nil_append, tokens_of_tag htag]; rfl
    | cons token ts => cases token <;> rfl

/-! ### Texts without tags -/

/-- A text that **holds a tag** somewhere. -/
def HoldsTag (s : Text) : Prop := ∃ body, IsBody body ∧ '[' :: (body ++ [']']) <:+: s

theorem holdsTag_cons_iff {c : Char} : HoldsTag (c :: s) ↔ (tag? (c :: s)).isSome ∨ HoldsTag s := by
  constructor
  · rintro ⟨body, hbody, hin⟩
    rcases List.infix_cons_iff.mp hin with ⟨rest, heq⟩ | hin
    · have htag := tag?_tag hbody 0 rest
      have heq' : c :: s = '[' :: (body ++ ']' :: rest) := by simpa using heq.symm
      exact .inl (heq' ▸ Option.isSome_iff_exists.mpr ⟨_, htag⟩)
    · exact .inr ⟨body, hbody, hin⟩
  · rintro (htag | ⟨body, hbody, hin⟩)
    · obtain ⟨⟨slashes, body, rest⟩, htag⟩ := Option.isSome_iff_exists.mp htag
      obtain ⟨heq, hbody⟩ := isBody_of_tag? htag
      exact ⟨body, hbody, List.replicate slashes '\\', rest, by simp [heq]⟩
    · exact ⟨body, hbody, List.infix_cons hin⟩

theorem not_holdsTag_of_not_mem (h : '[' ∉ s) : ¬ HoldsTag s := by
  rintro ⟨body, -, hin⟩
  exact h (hin.subset (List.mem_cons_self ..))

theorem tag_mem_consPlain_iff {c : Char} {ts : List Token} :
    .tag slashes body ∈ consPlain c ts ↔ .tag slashes body ∈ ts := by
  unfold consPlain
  split <;> simp

/-- **A tag is among the tokens** of a text exactly if the text holds one. -/
theorem exists_tag_mem_tokens_iff :
    (∃ slashes body, .tag slashes body ∈ tokens s) ↔ HoldsTag s := by
  fun_induction tokens s with
  | case1 => simp [HoldsTag]
  | case2 c t slashes body rest h _ ih =>
    exact iff_of_true ⟨slashes, body, List.mem_cons_self ..⟩
      (holdsTag_cons_iff.mpr (.inl (by simp [h])))
  | case3 c t h ih =>
    simp only [tag_mem_consPlain_iff, ih, holdsTag_cons_iff, h, Option.isSome_none,
      Bool.false_eq_true, false_or]

/-- A text without tags is one token. -/
theorem tokens_of_plain (h : ¬ HoldsTag s) (hne : s ≠ []) : tokens s = [.plain s] := by
  induction s with
  | nil => exact absurd rfl hne
  | cons c s ih =>
    rw [holdsTag_cons_iff, not_or] at h
    rw [tokens_cons_of_eq_none (by simpa using h.1)]
    by_cases hs : s = []
    · subst hs
      simp [tokens, consPlain]
    · rw [ih h.2 hs]
      rfl

end Markup

end NativeFinder
