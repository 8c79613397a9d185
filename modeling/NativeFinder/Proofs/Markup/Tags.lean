import Mathlib.Data.List.Basic
import NativeFinder.Markup.Styled
import NativeFinder.Proofs.Success

/-!
# The live tags of a markup text

Markup is read by its tags: `tokens` finds them, each with the backslashes before it, and an odd
number of these makes a tag ordinary text. The others are **live**. `liveTags` lists them in one
pass over the characters, with no more state than whether an odd number of backslashes stands
before the next one; `filterMap_live_tokens` says that these are the live tags of the tokens.

Only live tags can make the reading fail: an opening one by the style that it names, and a closing
one if there is nothing to close, or nothing that can be ended. `exists_ofMarkup_iff` says that a
text can be read exactly if its live tags close, in the sense of `Closes`, provided that their spans
can be drawn.
-/

namespace NativeFinder

namespace Markup

/-! ### Tags -/

/-- A text without brackets. -/
def IsBracketless (s : Text) : Prop := ∀ c ∈ s, c ≠ '[' ∧ c ≠ ']'

instance (s : Text) : Decidable (IsBracketless s) := List.decidableBAll _ s

/-- What may stand in the brackets of a tag. -/
structure IsBody (body : Text) : Prop where
  opens : ∃ c ∈ body.head?, opensTag c = true
  bracketless : IsBracketless body

/-- What opens a tag is neither a backslash nor a bracket. -/
theorem ne_of_opensTag {c : Char} (h : opensTag c = true) : c ≠ '\\' ∧ c ≠ '[' ∧ c ≠ ']' := by
  refine ⟨?_, ?_, ?_⟩
  all_goals
    rintro rfl
    revert h
    decide

variable {s t body rest : Text} {slashes : Nat} {odd : Bool}

theorem IsBody.exists_cons (h : IsBody body) : ∃ c b, body = c :: b ∧ opensTag c = true := by
  obtain ⟨c, hc, hopens⟩ := h.opens
  cases body with
  | nil => cases hc
  | cons d b =>
    obtain rfl : d = c := by simpa using hc
    exact ⟨d, b, rfl, hopens⟩

theorem body?_eq_some_iff :
    body? s = some (body, rest) ↔ s = body ++ ']' :: rest ∧ IsBracketless body := by
  fun_induction body? s generalizing body with
  | case1 => simp
  | case2 s =>
    cases body with
    | nil => simp [IsBracketless]
    | cons d body =>
      -- a body does not begin with the closing bracket
      refine iff_of_false (by simp) ?_
      rintro ⟨heq, hfree⟩
      exact (hfree d (List.mem_cons_self ..)).2 (List.cons.inj heq).1.symm
  | case3 s =>
    cases body with
    | nil => simp
    | cons d body =>
      refine iff_of_false (by simp) ?_
      rintro ⟨heq, hfree⟩
      exact (hfree d (List.mem_cons_self ..)).1 (List.cons.inj heq).1.symm
  | case4 c s hclose hopen ih =>
    cases body with
    | nil => simpa using fun heq => absurd heq (by simpa using hclose)
    | cons d body =>
      simp only [Option.map_eq_some_iff, Prod.exists, Prod.mk.injEq, List.cons.injEq,
        List.cons_append]
      constructor
      · rintro ⟨b, r, hs, ⟨rfl, rfl⟩, rfl⟩
        obtain ⟨rfl, hfree⟩ := ih.mp hs
        exact ⟨⟨rfl, rfl⟩, List.forall_mem_cons.mpr
          ⟨⟨by simpa using hopen, by simpa using hclose⟩, hfree⟩⟩
      · rintro ⟨⟨rfl, hs⟩, hfree⟩
        exact ⟨body, rest, ih.mpr ⟨hs, (List.forall_mem_cons.mp hfree).2⟩, ⟨rfl, rfl⟩, rfl⟩

/-- **A tag** is a bracket that is closed again, with no other bracket between. -/
theorem tag?_open_eq_some_iff {found : Nat × Text × Text} :
    tag? ('[' :: s) = some found ↔
      ∃ body rest, found = (0, body, rest) ∧ s = body ++ ']' :: rest ∧ IsBody body := by
  cases s with
  | nil => simp [tag?]
  | cons c s =>
    simp only [tag?]
    split
    · rename_i hc
      simp only [Option.map_eq_some_iff, Prod.exists]
      constructor
      · rintro ⟨b, rest, hs, rfl⟩
        obtain ⟨rfl, hfree⟩ := body?_eq_some_iff.mp hs
        exact ⟨c :: b, rest, rfl, rfl, ⟨c, rfl, hc⟩,
          List.forall_mem_cons.mpr ⟨(ne_of_opensTag hc).2, hfree⟩⟩
      · rintro ⟨body, rest, rfl, heq, hbody⟩
        obtain ⟨d, b, rfl, -⟩ := hbody.exists_cons
        obtain ⟨rfl, rfl⟩ := List.cons.inj heq
        have hfree : IsBracketless b := (List.forall_mem_cons.mp hbody.bracketless).2
        exact ⟨b, rest, body?_eq_some_iff.mpr ⟨rfl, hfree⟩, rfl⟩
    · rename_i hc
      refine iff_of_false (by simp) ?_
      rintro ⟨body, rest, rfl, heq, hbody⟩
      obtain ⟨d, b, rfl, hopens⟩ := hbody.exists_cons
      obtain ⟨rfl, rfl⟩ := List.cons.inj heq
      exact hc hopens

theorem tag?_slash (s : Text) :
    tag? ('\\' :: s) = (tag? s).map fun (slashes, found) => (slashes + 1, found) := rfl

@[simp]
theorem isSome_tag?_slash (s : Text) : (tag? ('\\' :: s)).isSome = (tag? s).isSome := by
  rw [tag?_slash, Option.isSome_map]

theorem tag?_of_ne {c : Char} (hslash : c ≠ '\\') (hopen : c ≠ '[') (s : Text) :
    tag? (c :: s) = none := by
  unfold tag?
  split
  · exact absurd (List.cons.inj ‹_›).1 hslash
  · exact absurd (List.cons.inj ‹_›).1 hopen
  · rfl

/-- The body of a tag, and what is read before and behind it. -/
theorem isBody_of_tag? (h : tag? s = some (slashes, body, rest)) :
    s = List.replicate slashes '\\' ++ '[' :: (body ++ ']' :: rest) ∧ IsBody body := by
  refine ⟨by simpa [Token.text] using eq_append_of_tag? h, ?_⟩
  induction s generalizing slashes with
  | nil => cases h
  | cons c s ih =>
    by_cases hslash : c = '\\'
    · subst hslash
      obtain ⟨⟨k, found⟩, hs, heq⟩ := Option.map_eq_some_iff.mp (tag?_slash s ▸ h)
      obtain ⟨rfl, rfl⟩ := Prod.mk.inj heq
      exact ih hs
    · by_cases hopen : c = '['
      · subst hopen
        obtain ⟨body', rest', heq, -, hbody⟩ := tag?_open_eq_some_iff.mp h
        obtain ⟨-, rfl, rfl⟩ : slashes = 0 ∧ body = body' ∧ rest = rest' := by simpa using heq
        exact hbody
      · rw [tag?_of_ne hslash hopen] at h
        cases h

/-- No tag begins inside brackets. -/
theorem tag?_bracketless_append (h : IsBracketless s) : tag? (s ++ ']' :: rest) = none := by
  induction s with
  | nil => exact tag?_of_ne (by decide) (by decide) rest
  | cons c s ih =>
    obtain ⟨⟨hopen, -⟩, hs⟩ := List.forall_mem_cons.mp h
    by_cases hslash : c = '\\'
    · rw [hslash, List.cons_append, tag?_slash, ih hs]
      rfl
    · exact tag?_of_ne hslash hopen _

/-! ### Live tags -/

/-- Whether an odd number of backslashes stands before what follows a text, if an odd number or
not stands before the text. -/
def oddSlashes (odd : Bool) (s : Text) : Bool := s.foldl (fun odd c => c == '\\' && !odd) odd

/-- The bodies of the **live** tags of a text in order. The first argument says whether an odd
number of backslashes stands before it. -/
def liveTags (odd : Bool) : Text → List Text
  | [] => []
  | c :: s =>
    (if c = '[' ∧ odd = false then ((tag? (c :: s)).map fun found => found.2.1).toList else []) ++
      liveTags (c == '\\' && !odd) s

/-- The body of a token that is read as a tag. -/
def Token.live? : Token → Option Text
  | plain _ => none
  | tag slashes body => if slashes % 2 = 0 then some body else none

@[simp]
theorem oddSlashes_nil (odd : Bool) : oddSlashes odd [] = odd := rfl

@[simp]
theorem oddSlashes_cons (odd : Bool) (c : Char) (s : Text) :
    oddSlashes odd (c :: s) = oddSlashes (c == '\\' && !odd) s := rfl

/-- Behind any other character than a backslash there is none. -/
theorem oddSlashes_of_plain (h : ∀ c ∈ s, c ≠ '\\') (hne : s ≠ []) (odd : Bool) :
    oddSlashes odd s = false := by
  obtain ⟨init, c, rfl⟩ := List.eq_nil_or_concat s |>.resolve_left hne
  have hc : (c == '\\') = false := beq_eq_false_iff_ne.mpr (h c (by simp))
  rw [oddSlashes, List.concat_eq_append, List.foldl_append, List.foldl_cons, List.foldl_nil, hc,
    Bool.false_and]

theorem liveTags_slash (odd : Bool) (s : Text) :
    liveTags odd ('\\' :: s) = liveTags (!odd) s := by
  simp [liveTags]

theorem liveTags_of_ne {c : Char} (hslash : c ≠ '\\') (hopen : c ≠ '[') (odd : Bool) (s : Text) :
    liveTags odd (c :: s) = liveTags false s := by
  rw [liveTags, if_neg (by simp [hopen]), beq_eq_false_iff_ne.mpr hslash]
  rfl

/-- A bracket that begins no tag, or has a backslash before it, brings no tag. -/
theorem liveTags_open_of_dead (h : odd = true ∨ tag? ('[' :: s) = none) :
    liveTags odd ('[' :: s) = liveTags false s := by
  rcases h with rfl | h
  · simp [liveTags]
  · simp [liveTags, h]

/-- A text without brackets and backslashes brings no tag, and no backslash before the next one. -/
theorem liveTags_append_of_plain (h : ∀ c ∈ s, c ≠ '\\' ∧ c ≠ '[') (hne : s ≠ []) (odd : Bool) :
    liveTags odd (s ++ t) = liveTags false t := by
  induction s generalizing odd with
  | nil => exact absurd rfl hne
  | cons c s ih =>
    obtain ⟨⟨hslash, hopen⟩, hs⟩ := List.forall_mem_cons.mp h
    rw [List.cons_append, liveTags_of_ne hslash hopen]
    cases s with
    | nil => rfl
    | cons d s => exact ih hs (by simp) false

/-- Without an opening bracket there is no tag. -/
theorem liveTags_of_not_mem (h : '[' ∉ s) (odd : Bool) : liveTags odd s = [] := by
  induction s generalizing odd with
  | nil => rfl
  | cons c s ih =>
    obtain ⟨hopen, hs⟩ : c ≠ '[' ∧ '[' ∉ s := by simpa [eq_comm] using h
    rw [liveTags, if_neg (by simp [hopen]), ih hs]
    rfl

/-- Inside brackets there is no tag. -/
theorem liveTags_bracketless_append (h : IsBracketless s) (odd : Bool) :
    liveTags odd (s ++ ']' :: t) = liveTags false t := by
  induction s generalizing odd with
  | nil => exact liveTags_of_ne (by decide) (by decide) odd t
  | cons c s ih =>
    obtain ⟨⟨hopen, -⟩, hs⟩ := List.forall_mem_cons.mp h
    by_cases hslash : c = '\\'
    · rw [hslash, List.cons_append, liveTags_slash, ih hs]
    · rw [List.cons_append, liveTags_of_ne hslash hopen, ih hs]

/-- **A tag is live** if no odd number of backslashes stands before it. -/
theorem liveTags_tag (h : IsBody body) (odd : Bool) (rest : Text) :
    liveTags odd ('[' :: (body ++ ']' :: rest)) =
      (if odd then [] else [body]) ++ liveTags false rest := by
  have htag : tag? ('[' :: (body ++ ']' :: rest)) = some (0, body, rest) :=
    tag?_open_eq_some_iff.mpr ⟨body, rest, rfl, rfl, h⟩
  have hrest := liveTags_bracketless_append (t := rest) h.bracketless false
  cases odd <;> simp [liveTags, htag, hrest]

theorem liveTags_replicate_append (k : Nat) (odd : Bool) (s : Text) :
    liveTags odd (List.replicate k '\\' ++ s) = liveTags (odd ^^ decide (k % 2 = 1)) s := by
  induction k generalizing odd with
  | zero => simp
  | succ k ih =>
    rw [List.replicate_succ, List.cons_append, liveTags_slash, ih]
    congr 1
    rcases Nat.mod_two_eq_zero_or_one k with hk | hk <;> cases odd <;> simp [Nat.add_mod, hk]

/-- Backslashes that no tag follows change nothing. -/
theorem liveTags_congr (h : tag? s = none) (odd odd' : Bool) :
    liveTags odd s = liveTags odd' s := by
  induction s generalizing odd odd' with
  | nil => rfl
  | cons c s ih =>
    by_cases hslash : c = '\\'
    · rw [hslash, liveTags_slash, liveTags_slash]
      refine ih ?_ _ _
      rwa [hslash, tag?_slash, Option.map_eq_none_iff] at h
    · by_cases hopen : c = '['
      · subst hopen
        rw [liveTags_open_of_dead (.inr h), liveTags_open_of_dead (.inr h)]
      · rw [liveTags_of_ne hslash hopen, liveTags_of_ne hslash hopen]

/-- **The live tags of a text** are those of its tokens. -/
theorem filterMap_live_tokens (s : Text) : (tokens s).filterMap Token.live? = liveTags false s := by
  fun_induction tokens s with
  | case1 => rfl
  | case2 c t slashes body rest h _ ih =>
    -- the pass counts the backslashes of the tag, and comes out behind it as it went in
    obtain ⟨heq, hbody⟩ := isBody_of_tag? h
    rw [heq, liveTags_replicate_append, liveTags_tag hbody, List.filterMap_cons, ih]
    rcases Nat.mod_two_eq_zero_or_one slashes with hk | hk <;> simp [Token.live?, hk]
  | case3 c t h ih =>
    have hcons : (consPlain c (tokens t)).filterMap Token.live? =
        (tokens t).filterMap Token.live? := by
      unfold consPlain
      split
      · rename_i heq
        rw [heq]
        rfl
      · rfl
    rw [hcons, ih]
    by_cases hslash : c = '\\'
    · -- the pass has seen one backslash more than the tokens count, but no tag follows it
      subst hslash
      rw [liveTags_slash]
      exact liveTags_congr (by rwa [tag?_slash, Option.map_eq_none_iff] at h) _ _
    · by_cases hopen : c = '['
      · subst hopen
        exact (liveTags_open_of_dead (.inr h)).symm
      · exact (liveTags_of_ne hslash hopen _ _).symm

end Markup

namespace Styled

/-! ### Reading -/

/-- The tags that stay open when a closing tag is read, by what follows its slash. -/
def afterClosing? (opened : List Tag) (name : Text) : Option (List Tag) := do
  let isClosable ← (Reading.closable name).toOption
  let tag ← opened.find? isClosable
  if tag.canEnd then some (opened.eraseP isClosable) else none

/-- The tags that are open behind a live tag, if `opened` are open before it. -/
def afterTag? (opened : List Tag) (body : Text) : Option (List Tag) :=
  match Reading.splitBody body with
  | ('/' :: name, _) => afterClosing? opened name
  | (name, parameters) => (readStyle name).toOption.map fun name => ⟨name, parameters⟩ :: opened

/-- Live tags that **close**: the styles that they name can be read, and every closing one finds an
open tag of its style that can be ended, or, if it names none, any open tag that can. -/
def Closes (opened : List Tag) (bodies : List Text) : Prop :=
  (bodies.foldlM afterTag? opened).isSome

/-- A style that can be **drawn**. -/
def IsDrawable (style : Text) : Prop := ∃ name, readStyle style = .ok name

/-- Whether the span that a live tag begins, if any, can be drawn. -/
def opensDrawable (body : Text) : Bool :=
  match Reading.splitBody body with
  | ('/' :: _, _) => true
  | (name, parameters) =>
    match readStyle name with
    | .ok name => (readStyle (Tag.style ⟨name, parameters⟩)).toOption.isSome
    | .error _ => true

theorem isDrawable_of_opensDrawable {body name style : Text} {parameters : Option Text}
    (h : opensDrawable body = true) (hsplit : Reading.splitBody body = (name, parameters))
    (hslash : ∀ rest, name ≠ '/' :: rest) (hname : readStyle name = .ok style) :
    IsDrawable (Tag.style ⟨style, parameters⟩) := by
  unfold opensDrawable at h
  split at h
  · rename_i heq
    exact absurd (Prod.mk.inj (hsplit.symm.trans heq)).1 (hslash _)
  · rename_i heq
    obtain ⟨rfl, rfl⟩ := Prod.mk.inj (hsplit.symm.trans heq)
    simp only [hname] at h
    cases hstyle : readStyle (Tag.style ⟨style, parameters⟩) with
    | error e => simp [hstyle, Except.toOption] at h
    | ok drawn => exact ⟨drawn, hstyle⟩

namespace Reading

variable {r r' : Reading} {position : Nat}

/-- The open tags. -/
def tags (r : Reading) : List Tag := r.openTags.map Prod.snd

/-- A closing tag is read as `afterClosing?` says. -/
theorem tags_closing (r : Reading) (position : Nat) (name body : Text) :
    (r.closing position name body).toOption.map tags = afterClosing? r.tags name := by
  unfold closing afterClosing?
  cases closable name with
  | error e => rfl
  | ok isClosable =>
    have hfind : r.tags.find? isClosable =
        (r.openTags.find? fun opened => isClosable opened.2).map Prod.snd :=
      List.find?_map ..
    have herase : r.tags.eraseP isClosable =
        (r.openTags.eraseP fun opened => isClosable opened.2).map Prod.snd :=
      List.eraseP_map ..
    simp only [Except.toOption, bind, Except.bind, Option.bind, hfind, herase]
    cases r.openTags.find? fun opened => isClosable opened.2 with
    | none => rfl
    | some opened => cases hend : opened.2.canEnd <;> simp [ending, hend, tags]

/-- **One token** changes the open tags only if it is live. -/
theorem tags_step (r : Reading) (position : Nat) (token : Markup.Token) :
    (r.step position token).toOption.map tags = token.live?.toList.foldlM afterTag? r.tags := by
  cases token with
  | plain s => rfl
  | tag slashes body =>
    rcases Nat.mod_two_eq_zero_or_one slashes with hk | hk
    · have hlive : (Markup.Token.tag slashes body).live? = some body := by
        simp [Markup.Token.live?, hk]
      have hodd : ¬ slashes % 2 = 1 := by omega
      rw [hlive, step, if_neg hodd]
      simp only [Option.toList_some, List.foldlM_cons, List.foldlM_nil, afterTag?, bind_pure]
      rcases splitBody body with ⟨name, parameters⟩
      have hopening : ((r.append (List.replicate (slashes / 2) '\\')).opening name
          parameters).toOption.map tags =
            (readStyle name).toOption.map fun name => ⟨name, parameters⟩ :: r.tags := by
        unfold opening
        cases readStyle name <;> rfl
      cases name with
      | nil => exact hopening
      | cons c name =>
        by_cases hc : c = '/'
        · subst hc
          exact tags_closing _ _ name body
        · simpa [hc] using hopening
    · have hlive : (Markup.Token.tag slashes body).live? = none := by simp [Markup.Token.live?, hk]
      rw [hlive, step, if_pos hk]
      rfl

/-- **Tokens are read** as far as their live tags close. -/
theorem tags_run (r : Reading) (position : Nat) (tokens : List Markup.Token) :
    (r.run position tokens).toOption.map tags =
      (tokens.filterMap Markup.Token.live?).foldlM afterTag? r.tags := by
  induction tokens generalizing r position with
  | nil => rfl
  | cons token tokens ih =>
    have hstep := tags_step r position token
    have hlist : (token :: tokens).filterMap Markup.Token.live? =
        token.live?.toList ++ tokens.filterMap Markup.Token.live? := by
      cases h : token.live? <;> simp [h]
    rw [run, hlist, List.foldlM_append, ← hstep]
    cases r.step position token with
    | error e => rfl
    | ok next => exact ih next _

/-! ### Drawing -/

/-- A reading all of whose spans can be drawn, the ended ones and those that are still open. -/
structure CanBeDrawn (r : Reading) : Prop where
  opened : ∀ opened ∈ r.openTags, IsDrawable opened.2.style
  spans : ∀ span ∈ r.spans, IsDrawable span.style

theorem isDrawable_closedStyle {tag : Tag} (h : IsDrawable tag.style) :
    IsDrawable tag.closedStyle := by
  unfold Tag.closedStyle
  split
  · exact ⟨"none", by decide +kernel⟩
  · exact h

/-- Drawable spans are no obstacle to the end of the reading. -/
theorem CanBeDrawn.finish_eq (h : r.CanBeDrawn) :
    r.finish = .ok { plain := r.plain, spans := r.allSpans } := by
  have hspans : ∀ span ∈ r.spansToEnd, IsDrawable span.style := by
    intro span hspan
    rw [spansToEnd, List.mem_append, List.mem_reverse, List.mem_map] at hspan
    rcases hspan with ⟨opened, hopened, rfl⟩ | hspan
    · exact h.opened opened hopened
    · exact h.spans span hspan
  have hforM (spans : List Span) (hs : ∀ span ∈ spans, IsDrawable span.style) :
      spans.forM (fun span => discard (readStyle span.style)) = Except.ok () := by
    induction spans with
    | nil => rfl
    | cons span spans ih =>
      obtain ⟨⟨name, hname⟩, hrest⟩ := List.forall_mem_cons.mp hs
      rw [List.forM, hname]
      exact ih hrest
  rw [finish, hforM _ hspans]
  rfl

theorem plain_of_finish {styled : Styled} (h : r.finish = .ok styled) : styled.plain = r.plain := by
  obtain ⟨_, -, h⟩ := exists_of_bind_eq_ok h
  obtain rfl := Except.ok.inj h
  rfl

/-- **An opening tag** begins a span of the style that it names. -/
theorem of_opening_eq_ok {name : Text} {parameters : Option Text}
    (h : r.opening name parameters = .ok r') : ∃ style, readStyle name = .ok style ∧
      r' = { r with openTags := (r.plain.length, ⟨style, parameters⟩) :: r.openTags } := by
  obtain ⟨style, hname, heq⟩ := exists_of_map_eq_ok h
  exact ⟨style, hname, heq.symm⟩

/-- **A closing tag** ends the span of an open one, and the others stay open. -/
theorem of_closing_eq_ok {name body : Text} (h : r.closing position name body = .ok r') :
    ∃ opened ∈ r.openTags, ∃ rest ⊆ r.openTags, r' =
      { r with
        openTags := rest
        spans := ⟨opened.1, r.plain.length, opened.2.closedStyle⟩ :: r.spans } := by
  obtain ⟨isClosable, -, h⟩ := exists_of_bind_eq_ok h
  split at h
  · rename_i opened hfind
    unfold ending at h
    split at h
    · exact ⟨opened, List.mem_of_find?_eq_some hfind, _, List.eraseP_subset,
        (Except.ok.inj h).symm⟩
    · cases h
  · cases h

/-- **One token** keeps what has been read drawable. -/
theorem canBeDrawn_step (h : r.CanBeDrawn) {token : Markup.Token}
    (htoken : ∀ body ∈ token.live?, opensDrawable body = true)
    (hstep : r.step position token = .ok r') : r'.CanBeDrawn := by
  cases token with
  | plain s =>
    obtain rfl := Except.ok.inj hstep
    exact ⟨h.opened, h.spans⟩
  | tag slashes body =>
    rw [step] at hstep
    split at hstep
    · obtain rfl := Except.ok.inj hstep
      exact ⟨h.opened, h.spans⟩
    · rename_i heven
      have hbody : opensDrawable body = true := htoken body (by
        simp [Markup.Token.live?, show slashes % 2 = 0 by omega])
      split at hstep
      · obtain ⟨opened, hopened, rest, hrest, rfl⟩ := of_closing_eq_ok hstep
        exact ⟨fun other hother => h.opened other (hrest hother), List.forall_mem_cons.mpr
          ⟨isDrawable_closedStyle (h.opened opened hopened), h.spans⟩⟩
      · rename_i name parameters hslash hsplit
        obtain ⟨style, hname, rfl⟩ := of_opening_eq_ok hstep
        have hstyle := isDrawable_of_opensDrawable hbody hsplit hslash hname
        exact ⟨List.forall_mem_cons.mpr ⟨hstyle, h.opened⟩, h.spans⟩

theorem canBeDrawn_run (h : r.CanBeDrawn) {tokens : List Markup.Token}
    (htokens : ∀ body ∈ tokens.filterMap Markup.Token.live?, opensDrawable body = true)
    (hrun : r.run position tokens = .ok r') : r'.CanBeDrawn := by
  induction tokens generalizing r position with
  | nil =>
    obtain rfl := Except.ok.inj hrun
    exact h
  | cons token tokens ih =>
    have htoken : ∀ body ∈ token.live?, opensDrawable body = true := fun body hbody =>
      htokens body (List.mem_filterMap.mpr ⟨token, List.mem_cons_self .., hbody⟩)
    have hrest : ∀ body ∈ tokens.filterMap Markup.Token.live?, opensDrawable body = true := by
      intro body hbody
      obtain ⟨other, hother, hlive⟩ := List.mem_filterMap.mp hbody
      exact htokens body (List.mem_filterMap.mpr ⟨other, List.mem_cons_of_mem _ hother, hlive⟩)
    obtain ⟨next, hstep, hrun⟩ := exists_of_bind_eq_ok hrun
    exact ih (canBeDrawn_step h htoken hstep) hrest hrun

end Reading

/-- **A text can be read** exactly if its live tags close, provided that their spans can be
drawn. -/
theorem exists_ofMarkup_iff {s : Text}
    (hdraw : ∀ body ∈ Markup.liveTags false s, opensDrawable body = true) :
    (∃ styled, ofMarkup s = .ok styled) ↔ Closes [] (Markup.liveTags false s) := by
  have hrun := Reading.tags_run {} 0 (Markup.tokens s)
  rw [Markup.filterMap_live_tokens] at hrun
  unfold ofMarkup Closes
  split
  · rw [show ([] : List Tag) = Reading.tags {} from rfl, ← hrun]
    cases hread : Reading.run {} 0 (Markup.tokens s) with
    | error e => simp [Except.toOption, bind, Except.bind]
    | ok r =>
      have hr : r.CanBeDrawn :=
        Reading.canBeDrawn_run (r := {}) ⟨by simp, by simp⟩
          (by rwa [Markup.filterMap_live_tokens]) hread
      simp [Except.toOption, bind, Except.bind, hr.finish_eq]
  · rename_i hopen
    have hnil : Markup.liveTags false s = [] := Markup.liveTags_of_not_mem hopen false
    simp [hnil]

/-- A tag can be closed under another name of its style, and the tag of a handler only if its
parameters can be evaluated. -/
example :
    (ofMarkup "[bold purple]x[/b purple]").toOption.map Styled.plain = some "x".toList ∧
      (ofMarkup "[@a=(1, 'b')]x[/]").toOption.map Styled.plain = some "x".toList ∧
        (ofMarkup "[@a=(]x[/]").toOption = none := by
  decide +kernel

/-! ### Names of styles -/

/-- The name of a style that opening and closing tags name alike. -/
structure IsStyleName (name : Text) : Prop where
  opening : Markup.IsBody name
  closing : Markup.IsBody ('/' :: name)
  split : Reading.splitBody name = (name, none)
  split_closing : Reading.splitBody ('/' :: name) = ('/' :: name, none)
  canonical : Markup.canonicalStyle name = .ok name
  trimmed : Text.trim name = name
  head : name.head? ≠ some '/' ∧ name.head? ≠ some '@'

namespace IsStyleName

variable {name : Text}

theorem ne_nil (h : IsStyleName name) : name ≠ [] := by
  obtain ⟨c, b, rfl, -⟩ := h.opening.exists_cons
  exact List.cons_ne_nil c b

theorem ne_slash (h : IsStyleName name) (rest : Text) : name ≠ '/' :: rest := by
  rintro rfl
  exact h.head.1 rfl

theorem readStyle_eq (h : IsStyleName name) : readStyle name = .ok name := by
  rw [readStyle, h.canonical]
  rfl

theorem isDrawable (h : IsStyleName name) : IsDrawable name := ⟨name, h.readStyle_eq⟩

theorem isHandler_eq (h : IsStyleName name) : Tag.isHandler ⟨name, none⟩ = false := by
  simpa [Tag.isHandler] using h.head.2

theorem canEnd_eq (h : IsStyleName name) : Tag.canEnd ⟨name, none⟩ = true := by
  simp [Tag.canEnd, h.isHandler_eq]

/-- A closing tag closes the tags of its name. -/
theorem closable_eq (h : IsStyleName name) :
    Reading.closable name = .ok fun tag => tag.name == name := by
  rw [Reading.closable, h.trimmed, if_neg h.ne_nil, h.readStyle_eq]
  rfl

/-- An opening tag opens its style. -/
theorem afterTag?_opening (h : IsStyleName name) (opened : List Tag) :
    afterTag? opened name = some (⟨name, none⟩ :: opened) := by
  simp [afterTag?, h.split, h.ne_slash, h.readStyle_eq, Except.toOption]

/-- A closing tag closes the tag before it. -/
theorem afterTag?_closing (h : IsStyleName name) (opened : List Tag) :
    afterTag? (⟨name, none⟩ :: opened) ('/' :: name) = some opened := by
  simp [afterTag?, h.split_closing, afterClosing?, h.closable_eq, Except.toOption, h.canEnd_eq]

/-- Where nothing is open, nothing can be closed. -/
theorem afterTag?_nil_closing (h : IsStyleName name) : afterTag? [] ('/' :: name) = none := by
  simp [afterTag?, h.split_closing, afterClosing?, h.closable_eq, Except.toOption]

theorem opensDrawable_opening (h : IsStyleName name) : opensDrawable name = true := by
  simp [opensDrawable, h.split, h.ne_slash, h.readStyle_eq, Tag.style, Except.toOption]

theorem opensDrawable_closing (h : IsStyleName name) : opensDrawable ('/' :: name) = true := by
  simp [opensDrawable, h.split_closing]

end IsStyleName

end Styled

end NativeFinder
