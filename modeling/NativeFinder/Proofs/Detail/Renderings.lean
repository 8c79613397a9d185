import Mathlib.Data.List.Forall2
import NativeFinder.Proofs.Detail.Tokens

/-!
# Both renderings highlight the same tokens

A text is escaped before it is highlighted, so what is highlighted might depend on the rendering: an
entity brings a new word, and the console puts backslashes between the characters. It does not.
Escaping puts a **unit** for each character (`Rendering.Escapes`), and a unit brings no token of its
own: a word character or an at sign stands for itself, and any other unit keeps words apart as the
character does.

So the tokens of a text and those of the escaped text correspond one to one (`Corresponds`): the
same tokens, and around them the units of what is around them in the text.
`highlightsTokens_rendering` says this of signatures and descriptions in both renderings. Whether
the console can read the marks again is another matter, which depends on the backslashes before the
tokens.
-/

namespace NativeFinder

namespace Rendering

/-! ### Units -/

/-- What escaping may put for a character. On the console, a backslash may come before a bracket or
another backslash. -/
def units : Rendering → Char → List Text
  | page, c => [pageChar c]
  | console, c => if c = '[' ∨ c = '\\' then [[c], ['\\', c]] else [[c]]

/-- A text **escapes** another one if it has a unit for each character. -/
inductive Escapes (r : Rendering) : Text → Text → Prop
  | nil : Escapes r [] []
  | cons {c : Char} {unit s t : Text} (hunit : unit ∈ r.units c) (h : Escapes r s t) :
      Escapes r (c :: s) (unit ++ t)

variable {r : Rendering} {s t a b unit : Text} {c : Char}

theorem Escapes.append (hs : r.Escapes s t) (ha : r.Escapes a b) : r.Escapes (s ++ a) (t ++ b) := by
  induction hs with
  | nil => exact ha
  | cons hunit _ ih =>
    rw [List.cons_append, List.append_assoc]
    exact .cons hunit ih

theorem Escapes.singleton (hunit : unit ∈ r.units c) : r.Escapes [c] unit := by
  simpa using Escapes.cons hunit .nil

theorem eq_nil_of_escapes (h : r.Escapes [] t) : t = [] := by
  cases h
  rfl

theorem exists_unit_of_escapes (h : r.Escapes (c :: s) t) :
    ∃ unit rest, unit ∈ r.units c ∧ t = unit ++ rest ∧ r.Escapes s rest := by
  cases h with
  | cons hunit h => exact ⟨_, _, hunit, rfl, h⟩

theorem units_of_ne (h : c ≠ '[' ∧ c ≠ '\\' ∧ c ≠ '&' ∧ c ≠ '<' ∧ c ≠ '>') : r.units c = [[c]] := by
  cases r with
  | console => simp [units, h]
  | page => simp [units, pageChar, h]

theorem mem_units_console : unit ∈ console.units c ↔
    unit = [c] ∨ (c = '[' ∨ c = '\\') ∧ unit = ['\\', c] := by
  by_cases hc : c = '[' ∨ c = '\\' <;> simp [units, hc]

theorem ne_nil_of_mem_units (h : unit ∈ r.units c) : unit ≠ [] := by
  cases r with
  | console => rcases mem_units_console.mp h with rfl | ⟨-, rfl⟩ <;> simp
  | page =>
    obtain rfl := List.mem_singleton.mp h
    unfold pageChar
    split_ifs <;> simp

/-- A word character stands for itself. -/
theorem units_of_isWord (h : Character.isWord c = true) : r.units c = [[c]] := by
  refine units_of_ne ⟨?_, ?_, ?_, ?_, ?_⟩
  all_goals
    rintro rfl
    revert h
    decide

/-- A guarded text has a unit for each character. -/
theorem escapes_guarded (s : Text) : console.Escapes s (Markup.guarded s) := by
  induction s with
  | nil => exact .nil
  | cons c s ih =>
    by_cases htag : (Markup.tag? (c :: s)).isSome = true
    · have hc : c = '[' ∨ c = '\\' := by
        by_contra hne
        rw [not_or] at hne
        rw [Markup.tag?_of_ne hne.2 hne.1] at htag
        cases htag
      rw [Markup.guarded_of_isSome htag]
      have hunit : ['\\', c] ∈ console.units c := mem_units_console.mpr (.inr ⟨hc, rfl⟩)
      exact .cons hunit ih
    · rw [Markup.guarded_of_eq_none (by simpa using htag)]
      have hunit : [c] ∈ console.units c := mem_units_console.mpr (.inl rfl)
      exact .cons hunit ih

/-- A lone backslash at the end may be closed by another one. -/
theorem Escapes.close (h : console.Escapes s (t ++ ['\\']))
    (hlone : Text.Stops (· == '\\') t.reverse) : console.Escapes s (t ++ ['\\', '\\']) := by
  induction s generalizing t with
  | nil => simpa using eq_nil_of_escapes h
  | cons c s ih =>
    obtain ⟨unit, rest, hunit, heq, hrest⟩ := exists_unit_of_escapes h
    rcases List.eq_nil_or_concat' rest with rfl | ⟨rest, d, rfl⟩
    · -- the backslash is the unit of the last character
      have hnil : s = [] := by
        cases hs : s with
        | nil => rfl
        | cons d s =>
          subst hs
          obtain ⟨unit, rest, hunit, heq, -⟩ := exists_unit_of_escapes hrest
          exact absurd (List.append_eq_nil_iff.mp heq.symm).1 (ne_nil_of_mem_units hunit)
      subst hnil
      rw [List.append_nil] at heq
      rcases mem_units_console.mp hunit with hsingle | ⟨-, hdouble⟩
      · have heq' : t ++ ['\\'] = [] ++ [c] := heq.trans hsingle
        obtain ⟨rfl, hc⟩ := List.append_inj' heq' rfl
        obtain rfl : '\\' = c := List.singleton_inj.mp hc
        exact .singleton (mem_units_console.mpr (.inr ⟨.inr rfl, rfl⟩))
      · have heq' : t ++ ['\\'] = ['\\'] ++ [c] := heq.trans hdouble
        obtain ⟨rfl, -⟩ := List.append_inj' heq' rfl
        simp [Text.Stops] at hlone
    · obtain ⟨rfl, hd⟩ := List.append_inj' (heq.trans (List.append_assoc ..).symm) rfl
      rw [← hd] at hrest
      have hstops : Text.Stops (· == '\\') rest.reverse := by
        by_cases hnil : rest = []
        · rw [hnil]
          exact Text.stops_nil
        · rwa [List.reverse_append, Text.stops_append (by simpa using hnil)] at hlone
      rw [List.append_assoc]
      exact .cons hunit (ih hrest hstops)

/-- **An escaped text** has a unit for each character. -/
theorem escapes_escape (r : Rendering) (s : Text) : r.Escapes s (r.escape s) := by
  cases r with
  | page =>
    induction s with
    | nil => exact .nil
    | cons c s ih => exact .cons (List.mem_singleton.mpr rfl) ih
  | console =>
    have hguarded := escapes_guarded s
    rw [escape, Markup.escape, Markup.flatMap_escaped_tokens, Markup.closeSlash]
    split
    · exact hguarded
    · rename_i before hlone heq
      have hlast : Markup.guarded s = before.reverse ++ ['\\'] := by
        rw [← List.reverse_reverse (Markup.guarded s), heq, List.reverse_cons]
      rw [hlast] at hguarded ⊢
      rw [List.append_assoc]
      refine hguarded.close ?_
      rw [List.reverse_reverse]
      cases before with
      | nil => exact Text.stops_nil
      | cons c before =>
        exact Text.stops_cons.mpr (beq_eq_false_iff_ne.mpr fun hc => hlone before (hc ▸ rfl))
    · exact hguarded

theorem escapes_join {f : Text → Text} (h : ∀ line, r.Escapes line (f line)) (lines : List Text) :
    r.Escapes (Text.join ['\n'] lines) (Text.join ['\n'] (lines.map f)) := by
  have hfeed : r.Escapes ['\n'] ['\n'] := by
    refine .singleton ?_
    rw [units_of_ne (by decide)]
    exact List.mem_singleton.mpr rfl
  cases lines with
  | nil => exact .nil
  | cons line lines =>
    rw [List.map_cons, Text.join_cons, Text.join_cons]
    refine (h line).append ?_
    induction lines with
    | nil => exact .nil
    | cons next lines ih => exact (hfeed.append (h next)).append ih

/-! ### Words -/

/-- **The forms of a unit**: the character itself, behind a backslash or not, or an entity, whose
name is no primitive type. -/
theorem unit_cases (h : unit ∈ r.units c) :
    unit = [c] ∨ ((c = '[' ∨ c = '\\') ∧ unit = ['\\', c]) ∨
      ((c = '&' ∨ c = '<' ∨ c = '>') ∧
        ∃ name, Text.IsWord name ∧ name ∉ Highlight.primitiveTypes ∧
          unit = '&' :: (name ++ [';'])) := by
  cases r with
  | console => exact (mem_units_console.mp h).imp_right .inl
  | page =>
    obtain rfl := List.mem_singleton.mp h
    unfold pageChar
    split_ifs with hamp hlt hgt
    · exact .inr (.inr ⟨.inl hamp, "amp".toList, by decide +kernel, by decide, rfl⟩)
    · exact .inr (.inr ⟨.inr (.inl hlt), "lt".toList, by decide +kernel, by decide, rfl⟩)
    · exact .inr (.inr ⟨.inr (.inr hgt), "gt".toList, by decide +kernel, by decide, rfl⟩)
    · exact .inl rfl

/-- A parenthesis comes of a parenthesis only. -/
theorem eq_cons_of_escapes_paren (h : r.Escapes s ('(' :: t)) : ∃ rest, s = '(' :: rest := by
  cases s with
  | nil => cases eq_nil_of_escapes h
  | cons c s =>
    obtain ⟨unit, rest, hunit, heq, -⟩ := exists_unit_of_escapes h
    rcases unit_cases hunit with rfl | ⟨-, rfl⟩ | ⟨-, name, -, -, rfl⟩
    · exact ⟨s, by rw [(List.cons.inj heq).1]⟩
    · exact absurd (List.cons.inj heq).1 (by decide)
    · exact absurd (List.cons.inj heq).1 (by decide)

/-- A unit keeps words apart if its character does. -/
theorem stops_isWord_unit (h : unit ∈ r.units c) (hc : Character.isWord c = false) (t : Text) :
    Text.Stops Character.isWord (unit ++ t) := by
  rcases unit_cases h with rfl | ⟨-, rfl⟩ | ⟨-, name, -, -, rfl⟩
  · exact Text.stops_cons.mpr hc
  · exact Text.stops_cons.mpr (by decide)
  · exact Text.stops_cons.mpr (by decide)

theorem not_mem_unit (h : unit ∈ r.units c) (hc : c ≠ '@') : '@' ∉ unit := by
  rcases unit_cases h with rfl | ⟨-, rfl⟩ | ⟨-, name, hname, -, rfl⟩
  · simpa using hc.symm
  · simpa using hc.symm
  · have hat : '@' ∉ name := fun hmem => absurd (hname.all '@' hmem) (by decide)
    simpa using hat

theorem stops_isWord_of_escapes (h : r.Escapes s t) (hs : Text.Stops Character.isWord s) :
    Text.Stops Character.isWord t := by
  cases h with
  | nil => exact hs
  | cons hunit _ => exact stops_isWord_unit hunit (Text.stops_cons.mp hs) _

theorem escapes_word (h : ∀ c ∈ s, Character.isWord c = true) : r.Escapes s s := by
  induction s with
  | nil => exact .nil
  | cons c s ih =>
    obtain ⟨hc, hs⟩ := List.forall_mem_cons.mp h
    have hunit : [c] ∈ r.units c := by simp [units_of_isWord hc]
    exact .cons hunit (ih hs)

/-- A word stands in the escaped text as it is. -/
theorem exists_append_of_escapes (hs : ∀ c ∈ s, Character.isWord c = true)
    (h : r.Escapes (s ++ a) t) : ∃ b, t = s ++ b ∧ r.Escapes a b := by
  induction s generalizing t with
  | nil => exact ⟨t, rfl, h⟩
  | cons c s ih =>
    obtain ⟨hc, hs⟩ := List.forall_mem_cons.mp hs
    obtain ⟨unit, rest, hunit, rfl, hrest⟩ := exists_unit_of_escapes h
    obtain ⟨b, rfl, hb⟩ := ih hs hrest
    rw [units_of_isWord hc, List.mem_singleton] at hunit
    exact ⟨b, by rw [hunit]; rfl, hb⟩

/-- **Words are read alike** from a text and from the escaped text. -/
theorem takeWord?_of_escapes {word rest : Text} (h : r.Escapes s t)
    (hs : Text.takeWord? s = some (word, rest)) :
    ∃ rest', Text.takeWord? t = some (word, rest') ∧ r.Escapes rest rest' := by
  obtain ⟨rfl, hword, hrest⟩ := Text.takeRun?_eq_some_iff.mp hs
  obtain ⟨rest', rfl, hrest'⟩ := exists_append_of_escapes hword.all h
  exact ⟨rest', Text.takeRun?_eq_some_iff.mpr
    ⟨rfl, hword, stops_isWord_of_escapes hrest' hrest⟩, hrest'⟩

theorem takeWord?_eq_none_of_escapes (h : r.Escapes s t) (hs : Text.takeWord? s = none) :
    Text.takeWord? t = none :=
  Text.takeRun?_eq_none_iff.mpr (stops_isWord_of_escapes h (Text.takeRun?_eq_none_iff.mp hs))

end Rendering

namespace Highlight

open Text Rendering

variable {r : Rendering} {s t a b word unit : Text} {c : Char} {p q : Place} {ps qs : List Place}

/-! ### Corresponding tokens -/

/-- Tokens of a text and of the escaped text that **correspond**: the same token, and what stands
before it and behind it is escaped apart from it. -/
structure Corresponds (r : Rendering) (s t : Text) (p q : Place) : Prop where
  token : q.token = p.token
  before : r.Escapes (s.take p.start) (t.take q.start)
  behind : r.Escapes (s.drop p.stop) (t.drop q.stop)

theorem Corresponds.shift (h : Corresponds r s t p q) (ha : r.Escapes a b) :
    Corresponds r (a ++ s) (b ++ t) (p.shift a.length) (q.shift b.length) where
  token := h.token
  before := by
    simp only [Place.shift, List.take_length_add_append]
    exact ha.append h.before
  behind := by
    simp only [Place.shift, Place.stop, Nat.add_assoc, List.drop_length_add_append]
    exact h.behind

theorem forall₂_shift (h : List.Forall₂ (Corresponds r s t) ps qs) (ha : r.Escapes a b) :
    List.Forall₂ (Corresponds r (a ++ s) (b ++ t)) (ps.map (Place.shift a.length))
      (qs.map (Place.shift b.length)) := by
  rw [List.forall₂_map_left_iff, List.forall₂_map_right_iff]
  exact h.imp fun _ _ hpq => hpq.shift ha

theorem forall₂_token (h : List.Forall₂ (Corresponds r s t) ps qs) (kind : TokenKind)
    (hword : r.Escapes word word) (hrest : r.Escapes s t) :
    List.Forall₂ (Corresponds r (word ++ s) (word ++ t))
      (⟨0, kind, word⟩ :: ps.map (Place.shift word.length))
      (⟨0, kind, word⟩ :: qs.map (Place.shift word.length)) := by
  refine .cons ⟨rfl, ?_, ?_⟩ (forall₂_shift h hword)
  · exact .nil
  · simpa [Place.stop] using hrest

/-! ### Escaped texts have the same tokens -/

/-- A unit brings no primitive type, if it is not of a word character. -/
theorem places_primitives_unit (hunit : unit ∈ r.units c) (hc : Character.isWord c = false)
    (t : Text) : places (primitives (unit ++ t)) =
      (places (primitives t)).map (Place.shift unit.length) := by
  rw [← placesFrom_eq_map]
  rcases unit_cases hunit with rfl | ⟨-, rfl⟩ | ⟨-, name, hname, hmem, rfl⟩
  · have hcut : primitives ([c] ++ t) = .plain [c] :: primitives t := primitives_of_not_word hc t
    rw [hcut]
    simp [places, placesFrom]
  · have hcut : primitives (['\\', c] ++ t) = .plain ['\\'] :: .plain [c] :: primitives t := by
      rw [← primitives_of_not_word hc t]
      exact primitives_of_not_word (by decide) _
    rw [hcut]
    simp [places, placesFrom]
  · -- the name of an entity is read as a word
    have hword : takeWord? (name ++ ';' :: t) = some (name, ';' :: t) :=
      takeRun?_eq_some_iff.mpr ⟨rfl, hname, stops_cons.mpr (by decide)⟩
    have hcut : primitives ('&' :: (name ++ [';']) ++ t) =
        .plain ['&'] :: .plain name :: .plain [';'] :: primitives t := by
      rw [List.cons_append, List.append_assoc, List.singleton_append,
        primitives_of_not_word (by decide), primitives_of_word hword, if_neg hmem,
        primitives_of_not_word (by decide)]
    rw [hcut]
    simp [places, placesFrom, Nat.add_comm, Nat.add_left_comm]

/-- A text without at signs brings no annotation. -/
theorem places_docTags_append (h : '@' ∉ a) (t : Text) :
    places (docTags (a ++ t)) = (places (docTags t)).map (Place.shift a.length) := by
  have hfrom (start : Nat) :
      placesFrom start (docTags (a ++ t)) = placesFrom (start + a.length) (docTags t) := by
    induction a generalizing start with
    | nil => rfl
    | cons c a ih =>
      obtain ⟨hc, ha⟩ : '@' ≠ c ∧ '@' ∉ a := by simpa using h
      rw [List.cons_append, docTags_of_not_word (.inl hc.symm), placesFrom, ih ha]
      simp [Nat.add_comm, Nat.add_left_comm]
  rw [places, hfrom, Nat.zero_add, placesFrom_eq_map]

theorem forall₂_places_primitives (h : r.Escapes s t) :
    List.Forall₂ (Corresponds r s t) (places (primitives s)) (places (primitives t)) := by
  fun_induction primitives s generalizing t with
  | case1 =>
    obtain rfl := eq_nil_of_escapes h
    simp [primitives, places, placesFrom]
  | case2 c s word rest hword _ ih =>
    obtain ⟨rest', hword', hrest⟩ := takeWord?_of_escapes h hword
    obtain ⟨heq, hrun, -⟩ := takeRun?_eq_some_iff.mp hword
    rw [primitives_of_word hword', heq, eq_append_of_takeRun? hword']
    split
    · rw [places_token_cons, places_token_cons]
      exact forall₂_token (ih hrest) .primitive (escapes_word hrun.all) hrest
    · rw [places_plain_cons, places_plain_cons]
      exact forall₂_shift (ih hrest) (escapes_word hrun.all)
  | case3 c s hword ih =>
    have hc : Character.isWord c = false := stops_cons.mp (takeRun?_eq_none_iff.mp hword)
    obtain ⟨unit, rest, hunit, rfl, hrest⟩ := exists_unit_of_escapes h
    rw [places_plain_cons, places_primitives_unit hunit hc]
    exact forall₂_shift (ih hrest) (.singleton hunit)

/-- **Signatures** have the same tokens when they are escaped. -/
theorem forall₂_places_signature (h : r.Escapes s t) :
    List.Forall₂ (Corresponds r s t) (places (signature s)) (places (signature t)) := by
  have hopen : r.units '(' = [['(']] := units_of_ne (by decide)
  by_cases hcall : ∃ word rest, takeWord? s = some (word, '(' :: rest)
  · obtain ⟨word, rest, hs⟩ := hcall
    obtain ⟨rest', ht, hrest⟩ := takeWord?_of_escapes h hs
    obtain ⟨heq, hrun, -⟩ := takeRun?_eq_some_iff.mp hs
    obtain ⟨unit, after, hunit, rfl, -⟩ := exists_unit_of_escapes hrest
    obtain rfl : unit = ['('] := by simpa [hopen] using hunit
    rw [signature_of_call hs, signature_of_call ht, places_token_cons, places_token_cons, heq,
      eq_append_of_takeRun? ht]
    exact forall₂_token (forall₂_places_primitives hrest) .function (escapes_word hrun.all) hrest
  · have hcall' : ∀ word rest, takeWord? t ≠ some (word, '(' :: rest) := by
      intro word rest ht
      cases hs : takeWord? s with
      | none => simp [takeWord?_eq_none_of_escapes h hs] at ht
      | some found =>
        obtain ⟨name, behind⟩ := found
        obtain ⟨behind', ht', hbehind⟩ := takeWord?_of_escapes h hs
        obtain ⟨-, rfl⟩ : word = name ∧ '(' :: rest = behind' := by simpa [ht] using ht'
        obtain ⟨behind, rfl⟩ := eq_cons_of_escapes_paren hbehind
        exact hcall ⟨name, behind, hs⟩
    rw [signature_of_not_call (s := s) (by simpa using hcall), signature_of_not_call hcall']
    exact forall₂_places_primitives h

/-- **Descriptions** have the same tokens when they are escaped. -/
theorem forall₂_places_docTags (h : r.Escapes s t) :
    List.Forall₂ (Corresponds r s t) (places (docTags s)) (places (docTags t)) := by
  have hat : r.units '@' = [['@']] := units_of_ne (by decide)
  fun_induction docTags s generalizing t with
  | case1 =>
    obtain rfl := eq_nil_of_escapes h
    simp [docTags, places, placesFrom]
  | case2 s word rest hword _ ih =>
    obtain ⟨unit, t, hunit, rfl, ht⟩ := exists_unit_of_escapes h
    obtain rfl : unit = ['@'] := by simpa [hat] using hunit
    obtain ⟨rest', hword', hrest⟩ := takeWord?_of_escapes ht hword
    obtain ⟨rfl, hrun, -⟩ := takeRun?_eq_some_iff.mp hword
    have htoken : r.Escapes ('@' :: word) ('@' :: word) := .cons hunit (escapes_word hrun.all)
    rw [List.singleton_append, docTags_of_word hword', places_token_cons, places_token_cons,
      eq_append_of_takeRun? hword']
    exact forall₂_token (ih hrest) .docTag htoken hrest
  | case3 s hword ih =>
    obtain ⟨unit, t, hunit, rfl, ht⟩ := exists_unit_of_escapes h
    obtain rfl : unit = ['@'] := by simpa [hat] using hunit
    rw [List.singleton_append,
      docTags_of_not_word (.inr (takeWord?_eq_none_of_escapes ht hword)), places_plain_cons,
      places_plain_cons]
    exact forall₂_shift (ih ht) (.singleton hunit)
  | case4 c s hc ih =>
    obtain ⟨unit, t, hunit, rfl, ht⟩ := exists_unit_of_escapes h
    rw [places_plain_cons, places_docTags_append (not_mem_unit hunit hc)]
    exact forall₂_shift (ih ht) (.singleton hunit)

/-! ### Entries -/

/-- No annotation goes on behind a line feed. -/
theorem docTags_append_lineFeed (a b : Text) :
    docTags (a ++ '\n' :: b) = docTags a ++ .plain ['\n'] :: docTags b := by
  have hfeed : Stops Character.isWord ('\n' :: b) := stops_cons.mpr (by decide)
  fun_induction docTags a with
  | case1 => exact docTags_of_not_word (.inl (by decide))
  | case2 s word rest hword _ ih =>
    obtain ⟨rfl, hrun, hrest⟩ := takeRun?_eq_some_iff.mp hword
    have hword' : takeWord? (word ++ rest ++ '\n' :: b) = some (word, rest ++ '\n' :: b) :=
      takeRun?_eq_some_iff.mpr ⟨List.append_assoc .., hrun, hrest.append hfeed⟩
    rw [List.cons_append, docTags_of_word hword', ih]
    rfl
  | case3 s hword ih =>
    have hword' : takeWord? (s ++ '\n' :: b) = none :=
      takeRun?_eq_none_iff.mpr ((takeRun?_eq_none_iff.mp hword).append hfeed)
    rw [List.cons_append, docTags_of_not_word (.inr hword'), ih]
    rfl
  | case4 c s hc ih =>
    rw [List.cons_append, docTags_of_not_word (.inl hc), ih]
    rfl

/-- Lines may be joined before they are highlighted. -/
theorem joined_map_docTags (lines : List Text) :
    joined (lines.map docTags) = docTags (Text.join ['\n'] lines) := by
  induction lines with
  | nil => simp [joined, Text.join, docTags]
  | cons line lines ih =>
    cases lines with
    | nil => rfl
    | cons next lines =>
      have hjoin : Text.join ['\n'] (line :: next :: lines) =
          line ++ '\n' :: Text.join ['\n'] (next :: lines) := by simp [Text.join]
      rw [hjoin, docTags_append_lineFeed, ← ih]
      rfl

theorem description_eq_markAll (r : Rendering) (s : Text) :
    r.description s =
      r.markAll (docTags (Text.join ['\n'] ((Rendering.shownLines s).map r.escape))) := by
  rw [← joined_map_docTags, List.map_map, ← markAll_description]
  rfl

/-- Marked text that **highlights the tokens** of a text: `s` is the text, and `t` is the escaped
text, in which the tokens have been marked. -/
structure HighlightsTokens (Token : Text → Place → Prop) (cut : Text → List Stretch) (r : Rendering)
    (s t marked : Text) : Prop where
  marked : marked = r.markAll (cut t)
  escapes : r.Escapes s t
  lists : Lists (Token s) (places (cut s))
  lists_escaped : Lists (Token t) (places (cut t))
  tokens : (places (cut t)).map Place.token = (places (cut s)).map Place.token
  corresponds : List.Forall₂ (Corresponds r s t) (places (cut s)) (places (cut t))

/-- **Both renderings highlight the same tokens** of a signature and of a description, those of the
text itself: escaping changes none of them, and none is found in what it puts in. -/
theorem highlightsTokens_rendering (s : Text) (r : Rendering) :
    let lines := ((Text.lines s).map Text.trimEnd).filter fun line =>
      line ∉ (["/**", "*/"] : List Text)
    HighlightsTokens SignatureToken signature r s (r.escape s) (r.signature s) ∧
      HighlightsTokens DescriptionToken docTags r (Text.join ['\n'] lines)
        (Text.join ['\n'] (lines.map r.escape)) (r.description s) := by
  intro lines
  have htokens {s t : Text} {ps qs : List Place} (h : List.Forall₂ (Corresponds r s t) ps qs) :
      qs.map Place.token = ps.map Place.token := by
    induction h with
    | nil => rfl
    | cons hpq _ ih => rw [List.map_cons, List.map_cons, hpq.token, ih]
  have hsignature := escapes_escape r s
  have hdescription := escapes_join (escapes_escape r) lines
  refine ⟨⟨rfl, hsignature, lists_signature _, lists_signature _,
    htokens (forall₂_places_signature hsignature), forall₂_places_signature hsignature⟩, ?_⟩
  refine ⟨?_, hdescription, lists_docTags _, lists_docTags _,
    htokens (forall₂_places_docTags hdescription), forall₂_places_docTags hdescription⟩
  rw [description_eq_markAll, shownLines_eq]

/-- An entity stands between two tokens, and its name is none. -/
example : (places (signature (Rendering.page.escape "amp(unit&unit)".toList))).map Place.token =
    [(.function, "amp".toList), (.primitive, "unit".toList), (.primitive, "unit".toList)] := by
  decide +kernel

end Highlight

end NativeFinder
