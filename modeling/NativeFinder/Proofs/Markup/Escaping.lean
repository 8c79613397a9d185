import NativeFinder.Proofs.Markup.Tags
import NativeFinder.Proofs.Text.Cuts

/-!
# Escaped texts hold no live tag

Escaping adds backslashes before the tags of a text. Read from left to right, it puts one in front
of every character at which a tag with its backslashes begins (`guarded`); this doubles the
backslashes that stand before a tag and adds one, so that their number is odd. At the end it may
close a lone backslash with another one (`escape_eq`).

So an escaped text has no live tag, whatever follows it, unless a bracket is **left open** at its
end: what follows could close that bracket, and no backslash has been put before it
(`liveTags_guarded_append`). Words are not touched by escaping, and neither is what stands right
before or behind one (`takeWord?_guarded_append`).
-/

namespace NativeFinder

namespace Markup

/-- A text with a backslash before each character at which a tag, with its backslashes, begins. -/
def guarded : Text → Text
  | [] => []
  | c :: s => if (tag? (c :: s)).isSome then '\\' :: c :: guarded s else c :: guarded s

/-- Whether a text ends inside a bracket that could still become a tag. -/
def leavesOpen (s : Text) : Bool :=
  s.tails.any fun
    | '[' :: c :: body => opensTag c && body.all fun d => d != '[' && d != ']'
    | _ => false

variable {s t body rest : Text} {odd : Bool}

/-! ### Escaping from left to right -/

theorem guarded_of_isSome {c : Char} (h : (tag? (c :: s)).isSome = true) :
    guarded (c :: s) = '\\' :: c :: guarded s := by
  rw [guarded, if_pos h]

theorem guarded_of_eq_none {c : Char} (h : tag? (c :: s) = none) :
    guarded (c :: s) = c :: guarded s := by
  rw [guarded, h]
  rfl

theorem guarded_of_ne {c : Char} (hslash : c ≠ '\\') (hopen : c ≠ '[') (s : Text) :
    guarded (c :: s) = c :: guarded s :=
  guarded_of_eq_none (tag?_of_ne hslash hopen s)

/-- Nothing is added inside brackets. -/
theorem guarded_bracketless_append (h : IsBracketless s) (rest : Text) :
    guarded (s ++ ']' :: rest) = s ++ ']' :: guarded rest := by
  induction s with
  | nil => exact guarded_of_ne (by decide) (by decide) rest
  | cons c s ih =>
    have hnone : tag? (c :: s ++ ']' :: rest) = none := tag?_bracketless_append h
    rw [List.cons_append] at hnone ⊢
    rw [guarded_of_eq_none hnone, ih (List.forall_mem_cons.mp h).2]
    rfl

/-- **A tag** gets each of its backslashes twice and one more. -/
theorem guarded_tag (h : IsBody body) (slashes : Nat) (rest : Text) :
    guarded ((Token.tag slashes body).text ++ rest) =
      (Token.tag slashes body).escaped ++ guarded rest := by
  have htag : tag? ('[' :: (body ++ ']' :: rest)) = some (0, body, rest) :=
    tag?_open_eq_some_iff.mpr ⟨body, rest, rfl, rfl, h⟩
  have hsome (k : Nat) : (tag? (List.replicate k '\\' ++ '[' :: (body ++ ']' :: rest))).isSome := by
    induction k with
    | zero => simp [htag]
    | succ k ih => rwa [List.replicate_succ, List.cons_append, isSome_tag?_slash]
  have hslashes (k : Nat) : guarded (List.replicate k '\\' ++ '[' :: (body ++ ']' :: rest)) =
      List.replicate (2 * k + 1) '\\' ++ '[' :: (body ++ ']' :: guarded rest) := by
    induction k with
    | zero =>
      have hbody := guarded_bracketless_append h.bracketless rest
      simp [guarded_of_isSome (hsome 0), hbody]
    | succ k ih =>
      have hsucc := hsome (k + 1)
      rw [List.replicate_succ, List.cons_append] at hsucc ⊢
      rw [guarded_of_isSome hsucc, ih]
      rfl
  simpa [Token.text, Token.escaped] using hslashes slashes

/-- Escaping goes from left to right. -/
theorem flatMap_escaped_tokens (s : Text) : (tokens s).flatMap Token.escaped = guarded s := by
  fun_induction tokens s with
  | case1 => rfl
  | case2 c t slashes body rest h _ ih =>
    rw [eq_append_of_tag? h, guarded_tag (isBody_of_tag? h).2, List.flatMap_cons, ih]
  | case3 c t h ih =>
    have hcons : (consPlain c (tokens t)).flatMap Token.escaped =
        c :: (tokens t).flatMap Token.escaped := by
      unfold consPlain
      split
      · rename_i heq
        rw [heq]
        rfl
      · rfl
    rw [hcons, ih, guarded_of_eq_none h]

/-- **An escaped text** is guarded, and a lone backslash at its end may be closed by another. -/
theorem escape_eq (s : Text) : ∃ t, (t = [] ∨ t = ['\\']) ∧ escape s = guarded s ++ t := by
  rw [escape, flatMap_escaped_tokens, closeSlash]
  split
  · exact ⟨[], .inl rfl, (List.append_nil _).symm⟩
  · exact ⟨['\\'], .inr rfl, rfl⟩
  · exact ⟨[], .inl rfl, (List.append_nil _).symm⟩

/-! ### Live tags of escaped texts -/

/-- A bracket that a text does not close stays open when the text is guarded, unless what follows
closes it. -/
theorem body?_guarded_append (hs : body? s = none)
    (ht : body? t = none ∨ ¬ IsBracketless s) : body? (guarded s ++ t) = none := by
  induction s with
  | nil => exact ht.resolve_right fun h => h (by simp [IsBracketless])
  | cons c s ih =>
    by_cases hopen : c = '['
    · -- another bracket opens before this one is closed
      subst hopen
      rw [guarded]
      split
      · rfl
      · rfl
    · have hclose : c ≠ ']' := by
        rintro rfl
        cases hs
      have hrest : body? s = none := by
        rwa [body?, Option.map_eq_none_iff] at hs
        · simpa using hclose
        · simpa using hopen
      have hbody : body? (c :: (guarded s ++ t)) = none := by
        rw [body?, Option.map_eq_none_iff]
        · refine ih hrest (ht.imp_right fun hnot hfree => hnot ?_)
          exact List.forall_mem_cons.mpr ⟨⟨hopen, hclose⟩, hfree⟩
        · simpa using hclose
        · simpa using hopen
      rw [guarded]
      split
      · rw [List.cons_append, body?, List.cons_append, hbody]
        · rfl
        · simp
        · simp
      · exact hbody

theorem leavesOpen_cons (c : Char) (h : leavesOpen (c :: s) = false) : leavesOpen s = false := by
  rw [leavesOpen, List.tails, List.any_cons, Bool.or_eq_false_iff] at h
  exact h.2

theorem not_isBracketless_of_leavesOpen {c : Char} (h : leavesOpen ('[' :: c :: s) = false)
    (hc : opensTag c = true) : ¬ IsBracketless s := by
  intro hfree
  have hall : (s.all fun d => d != '[' && d != ']') = true :=
    List.all_eq_true.mpr fun d hd => by simpa using hfree d hd
  rw [leavesOpen, List.tails, List.any_cons, Bool.or_eq_false_iff] at h
  simp [hc, hall] at h

/-- What can stand behind an escaped text without closing a bracket that it leaves open. -/
structure Seals (t s : Text) : Prop where
  head : ∀ c ∈ t.head?, opensTag c = false
  body : body? t = none ∨ leavesOpen s = false

theorem Seals.of_cons {c : Char} (h : Seals t (c :: s)) : Seals t s :=
  ⟨h.head, h.body.imp_right (leavesOpen_cons c)⟩

/-- A bracket that begins no tag does not begin one when the text is guarded. -/
theorem tag?_open_guarded_append (hs : tag? ('[' :: s) = none) (ht : Seals t ('[' :: s)) :
    tag? ('[' :: (guarded s ++ t)) = none := by
  cases s with
  | nil =>
    cases t with
    | nil => rfl
    | cons d t => rw [guarded, List.nil_append, tag?, ht.head d rfl, if_neg (by decide)]
  | cons c s =>
    by_cases hc : opensTag c = true
    · obtain ⟨hslash, hopen, -⟩ := ne_of_opensTag hc
      rw [tag?, if_pos hc, Option.map_eq_none_iff] at hs
      rw [guarded_of_ne hslash hopen, List.cons_append, tag?, if_pos hc, Option.map_eq_none_iff]
      exact body?_guarded_append hs
        (ht.body.imp_right fun hopen => not_isBracketless_of_leavesOpen hopen hc)
    · -- neither the character nor a backslash before it opens a tag
      rw [guarded]
      split
      · rfl
      · rw [List.cons_append, tag?, if_neg hc]

/-- **An escaped text has no live tag**, and none comes into being where it meets what follows. -/
theorem liveTags_guarded_append (hs : (tag? s).isSome → odd = false) (ht : Seals t s) :
    ∃ odd', liveTags odd (guarded s ++ t) = liveTags odd' t := by
  -- in front of a tag and its backslashes the count stays even, since each of them is doubled
  induction s generalizing odd with
  | nil => exact ⟨odd, rfl⟩
  | cons c s ih =>
    have hrest := ht.of_cons
    by_cases htag : (tag? (c :: s)).isSome = true
    · -- a backslash stands in front of the character
      rw [guarded_of_isSome htag, hs htag, List.cons_append, liveTags_slash, List.cons_append]
      by_cases hslash : c = '\\'
      · rw [hslash, liveTags_slash]
        exact ih (fun _ => rfl) hrest
      · obtain rfl : c = '[' := by
          by_contra hopen
          rw [tag?_of_ne hslash hopen] at htag
          cases htag
        rw [Bool.not_false, liveTags_open_of_dead (.inl rfl)]
        exact ih (fun _ => rfl) hrest
    · have hnone : tag? (c :: s) = none := by simpa using htag
      rw [guarded_of_eq_none hnone, List.cons_append]
      by_cases hslash : c = '\\'
      · subst hslash
        rw [liveTags_slash]
        exact ih (fun h => absurd (isSome_tag?_slash s ▸ h) htag) hrest
      · by_cases hopen : c = '['
        · subst hopen
          rw [liveTags_open_of_dead (.inr (tag?_open_guarded_append hnone ht))]
          exact ih (fun _ => rfl) hrest
        · rw [liveTags_of_ne hslash hopen]
          exact ih (fun _ => rfl) hrest

/-- A line feed ends whatever an escaped text may have begun, if it leaves no bracket open. -/
theorem liveTags_escape_append_lineFeed (h : leavesOpen s = false) (t : Text) :
    liveTags false (escape s ++ '\n' :: t) = liveTags false t := by
  have hfeed (odd : Bool) : liveTags odd ('\n' :: t) = liveTags false t :=
    liveTags_of_ne (by decide) (by decide) odd t
  obtain ⟨close, hclose, heq⟩ := escape_eq s
  have hseals : Seals (close ++ '\n' :: t) s := by
    refine ⟨?_, .inr h⟩
    rcases hclose with rfl | rfl <;> simp [opensTag]
  obtain ⟨odd, hodd⟩ := liveTags_guarded_append (fun _ => rfl) hseals
  rw [heq, List.append_assoc, hodd]
  rcases hclose with rfl | rfl
  · exact hfeed odd
  · exact (liveTags_slash odd _).trans (hfeed !odd)

/-- An escaped text has no live tag. -/
theorem liveTags_escape (s : Text) : liveTags false (escape s) = [] := by
  obtain ⟨close, hclose, heq⟩ := escape_eq s
  have hseals : Seals close s := by
    rcases hclose with rfl | rfl
    · exact ⟨by simp, .inl rfl⟩
    · exact ⟨by simp [opensTag], .inl rfl⟩
  obtain ⟨odd, hodd⟩ := liveTags_guarded_append (fun _ => rfl) hseals
  rw [heq, hodd]
  refine liveTags_of_not_mem ?_ odd
  rcases hclose with rfl | rfl <;> decide

/-! ### Words -/

theorem ne_of_isWord {c : Char} (h : Character.isWord c = true) : c ≠ '\\' ∧ c ≠ '[' := by
  constructor
  all_goals
    rintro rfl
    revert h
    decide

/-- Nothing is added to a word. -/
theorem guarded_word_append (h : ∀ c ∈ s, Character.isWord c = true) (rest : Text) :
    guarded (s ++ rest) = s ++ guarded rest := by
  induction s with
  | nil => rfl
  | cons c s ih =>
    obtain ⟨hc, hs⟩ := List.forall_mem_cons.mp h
    obtain ⟨hslash, hopen⟩ := ne_of_isWord hc
    rw [List.cons_append, guarded_of_ne hslash hopen, ih hs]
    rfl

/-- A guarded text begins with a word character only if the text does. -/
theorem stops_isWord_guarded_append (hs : Text.Stops Character.isWord s)
    (ht : Text.Stops Character.isWord t) : Text.Stops Character.isWord (guarded s ++ t) := by
  cases s with
  | nil => exact ht
  | cons c s =>
    rw [guarded]
    split
    · exact Text.stops_cons.mpr (by decide)
    · exact Text.stops_cons.mpr (Text.stops_cons.mp hs)

/-- **Words are read alike** from a text and from the guarded text. -/
theorem takeWord?_guarded_append (s : Text) (ht : Text.Stops Character.isWord t) :
    Text.takeWord? (guarded s ++ t) =
      (Text.takeWord? s).map fun (word, rest) => (word, guarded rest ++ t) := by
  cases hword : Text.takeWord? s with
  | some found =>
    obtain ⟨word, rest⟩ := found
    obtain ⟨rfl, hrun, hrest⟩ := Text.takeRun?_eq_some_iff.mp hword
    rw [guarded_word_append hrun.all, List.append_assoc]
    exact Text.takeRun?_eq_some_iff.mpr ⟨rfl, hrun, stops_isWord_guarded_append hrest ht⟩
  | none =>
    have hstops := stops_isWord_guarded_append (Text.takeRun?_eq_none_iff.mp hword) ht
    exact Text.takeRun?_eq_none_iff.mpr hstops

end Markup

end NativeFinder
