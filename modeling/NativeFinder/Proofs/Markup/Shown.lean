import Mathlib.Algebra.Order.BigOperators.Group.List
import Mathlib.Algebra.Order.Ring.Nat
import Mathlib.Data.List.TakeWhile
import NativeFinder.Markup.Emoji
import NativeFinder.Proofs.Markup.Tokens

/-!
# What is shown of a markup text

Each token of a markup text is shown as some text (`Styled.shown`), and the plain text that is read
is made of these (`plain_runWith`). On the way a backslash before a bracket gets lost, and so do the
characters that move the cursor; a known emoji takes the place of its code, and a tag brings nothing
but half of its backslashes.

None of this adds a colon, and only an emoji can make a text longer, which takes two colons away. So
where neither colons nor characters are missing in the end, nothing has happened at all
(`exists_plain_of_le`).
-/

namespace NativeFinder

namespace Markup

variable {s body : Text} {table : EmojiTable}

/-! ### Codes -/

/-- The text of a piece. -/
def EmojiPiece.text : EmojiPiece → Text
  | char c => [c]
  | code body => ':' :: (body ++ [':'])

/-- The pieces of a text make it up. -/
theorem flatMap_text_emojiPieces (s : Text) : (emojiPieces s).flatMap EmojiPiece.text = s := by
  fun_induction emojiPieces s with
  | case1 => rfl
  | case2 c t body rest h _ ih =>
    rw [List.flatMap_cons, ih, eq_append_of_emojiCode? h]
    simp [EmojiPiece.text]
  | case3 c t _ ih => rw [List.flatMap_cons, ih]; rfl

theorem isCodeChar_of_emojiCode? {rest : Text} (h : emojiCode? s = some (body, rest)) :
    ∀ c ∈ body, isCodeChar c = true := by
  unfold emojiCode? at h
  split at h
  · split at h
    · obtain ⟨rfl, rfl⟩ := Prod.mk.inj (Option.some.inj h)
      exact fun c hc => List.mem_takeWhile_imp hc
    · cases h
  · cases h

/-- A code stands in its text between two colons, with no colon and no blank inside. -/
theorem isInfix_of_code_mem (h : .code body ∈ emojiPieces s) :
    ':' :: (body ++ [':']) <:+: s ∧ ∀ c ∈ body, isCodeChar c = true := by
  fun_induction emojiPieces s with
  | case1 => cases h
  | case2 c t body' rest hcode _ ih =>
    have heq := eq_append_of_emojiCode? hcode
    rcases List.mem_cons.mp h with hbody | h
    · obtain rfl : body = body' := by simpa using hbody
      exact ⟨⟨[], rest, by simp [heq]⟩, isCodeChar_of_emojiCode? hcode⟩
    · obtain ⟨hin, hbody⟩ := ih h
      have hsuffix : rest <:+ c :: t := ⟨':' :: (body' ++ [':']), by simp [heq]⟩
      exact ⟨hin.trans hsuffix.isInfix, hbody⟩
  | case3 c t _ ih =>
    obtain ⟨hin, hbody⟩ := ih (by simpa using h)
    exact ⟨List.infix_cons hin, hbody⟩

theorem emojiPieces_cons_of_eq_none {c : Char} (h : emojiCode? (c :: s) = none) :
    emojiPieces (c :: s) = .char c :: emojiPieces s := by
  rw [emojiPieces]
  split
  · rename_i heq
    cases heq.symm.trans h
  · rfl

/-- Without known codes a text stays as it is. -/
theorem EmojiTable.replaceCodes_eq_self
    (h : ∀ body, .code body ∈ emojiPieces s → table.emoji? body = none) :
    table.replaceCodes s = s := by
  have hpiece : ∀ piece ∈ emojiPieces s, table.shown piece = piece.text := by
    intro piece hpiece
    cases piece with
    | char c => rfl
    | code body => rw [shown, h body hpiece]; rfl
  rw [replaceCodes, List.flatMap_congr hpiece, flatMap_text_emojiPieces]

@[simp]
theorem EmojiTable.emoji?_nil (body : Text) : EmojiTable.emoji? [] body = none := by
  unfold emoji?
  split <;> rfl

@[simp]
theorem EmojiTable.replaceCodes_nil (s : Text) : EmojiTable.replaceCodes [] s = s :=
  replaceCodes_eq_self fun body _ => emoji?_nil body

/-- A table none of whose emoji has a colon. -/
def EmojiTable.IsColonFree (table : EmojiTable) : Prop := ∀ entry ∈ table, ':' ∉ entry.2

theorem EmojiTable.not_mem_of_emoji? {emoji : Text} (htable : table.IsColonFree)
    (h : table.emoji? body = some emoji) : ':' ∉ emoji := by
  have hlookup {name found : Text} (hfound : table.lookup name = some found) : ':' ∉ found := by
    obtain ⟨before, after, heq, -⟩ := List.lookup_eq_some_iff.mp hfound
    exact htable (name, found) (by simp [heq])
  unfold emoji? at h
  split at h
  · rename_i ending selector hvariant
    obtain ⟨found, hfound, rfl⟩ := Option.map_eq_some_iff.mp h
    have hselector : ∀ v ∈ emojiVariants, ':' ∉ v.2 := by decide
    have := hselector _ (List.mem_of_find?_eq_some hvariant)
    simp [hlookup hfound, this]
  · exact hlookup h

/-! ### Colons -/

/-- Amounts that are nowhere greater, and no smaller in all, are the same. -/
theorem le_of_sum_map_le {α : Type} {f g : α → Nat} {xs : List α} (h : ∀ x ∈ xs, f x ≤ g x)
    (hsum : (xs.map g).sum ≤ (xs.map f).sum) : ∀ x ∈ xs, g x ≤ f x := by
  induction xs with
  | nil => simp
  | cons x xs ih =>
    obtain ⟨hx, hxs⟩ := List.forall_mem_cons.mp h
    have hle : (xs.map f).sum ≤ (xs.map g).sum := List.sum_le_sum hxs
    simp only [List.map_cons, List.sum_cons] at hsum
    exact List.forall_mem_cons.mpr ⟨by omega, ih hxs (by omega)⟩

/-- A piece is shown with no more colons than it has, and a known code with fewer. -/
theorem EmojiTable.count_shown_le (htable : table.IsColonFree) (piece : EmojiPiece) :
    (table.shown piece).count ':' ≤ piece.text.count ':' := by
  cases piece with
  | char c => exact Nat.le_refl _
  | code body =>
    cases h : table.emoji? body with
    | none =>
      rw [shown, h]
      exact Nat.le_refl _
    | some emoji =>
      rw [shown, h, Option.getD_some, List.count_eq_zero.mpr (not_mem_of_emoji? htable h)]
      exact Nat.zero_le _

theorem EmojiTable.emoji?_eq_none_of_count_le (htable : table.IsColonFree)
    (h : (EmojiPiece.code body).text.count ':' ≤ (table.shown (.code body)).count ':') :
    table.emoji? body = none := by
  cases hemoji : table.emoji? body with
  | none => rfl
  | some emoji =>
    rw [shown, hemoji, Option.getD_some,
      List.count_eq_zero.mpr (not_mem_of_emoji? htable hemoji), EmojiPiece.text] at h
    simp at h

theorem sum_count_emojiPieces (s : Text) :
    ((emojiPieces s).map (List.count ':' ∘ EmojiPiece.text)).sum = s.count ':' := by
  rw [← List.count_flatMap, flatMap_text_emojiPieces]

theorem EmojiTable.count_replaceCodes_le (htable : table.IsColonFree) (s : Text) :
    (table.replaceCodes s).count ':' ≤ s.count ':' := by
  rw [← sum_count_emojiPieces s, replaceCodes, List.count_flatMap]
  exact List.sum_le_sum fun piece _ => count_shown_le htable piece

/-- **If no colon is missing**, no code is known. -/
theorem EmojiTable.emoji?_eq_none_of_le (htable : table.IsColonFree)
    (h : s.count ':' ≤ (table.replaceCodes s).count ':') :
    ∀ body, .code body ∈ emojiPieces s → table.emoji? body = none := by
  intro body hbody
  rw [← sum_count_emojiPieces, replaceCodes, List.count_flatMap] at h
  exact emoji?_eq_none_of_count_le htable
    (le_of_sum_map_le (fun piece _ => count_shown_le htable piece) h (.code body) hbody)

end Markup

namespace Styled

open Markup (EmojiTable Token)

variable {s : Text} {table : EmojiTable} {r r' : Reading}

/-! ### A console without emoji -/

/-- A console that knows no emoji reads markup as it is. -/
theorem ofMarkupWith_nil (s : Text) : ofMarkupWith [] s = ofMarkup s := by
  have happend (r : Reading) (s : Text) : r.appendWith [] s = r.append s := by
    simp [Reading.appendWith, Reading.append]
  have hstep (r : Reading) (position : Nat) (token : Token) :
      r.stepWith [] position token = r.step position token := by
    cases token with
    | plain s => simp [Reading.stepWith, Reading.step, happend]
    | tag slashes body =>
      by_cases hodd : slashes % 2 = 1 <;> simp [Reading.stepWith, Reading.step, happend, hodd]
  have hrun (r : Reading) (position : Nat) (tokens : List Token) :
      r.runWith [] position tokens = r.run position tokens := by
    induction tokens generalizing r position with
    | nil => rfl
    | cons token tokens ih => simp only [Reading.runWith, Reading.run, hstep, ih]
  simp only [ofMarkupWith, ofMarkup, hrun, EmojiTable.replaceCodes_nil]

/-! ### What is shown of a token -/

/-- What is shown of plain text. -/
def shownText (table : EmojiTable) (s : Text) : Text :=
  visible (table.replaceCodes (Reading.append.dropSlashes s))

/-- What is shown of a token. -/
def shown (table : EmojiTable) : Token → Text
  | .plain s => shownText table s
  | .tag slashes body =>
    List.replicate (slashes / 2) '\\' ++
      if slashes % 2 = 1 then shownText table ('[' :: (body ++ [']'])) else []

theorem dropSlashes_sublist (s : Text) : (Reading.append.dropSlashes s).Sublist s := by
  fun_induction Reading.append.dropSlashes s with
  | case1 s ih => exact (ih.cons_cons '[').cons _
  | case2 c s _ ih => exact ih.cons_cons c
  | case3 => exact List.Sublist.refl _

/-- A backslash is left out exactly where a bracket follows it. -/
theorem dropSlashes_eq_self_iff : Reading.append.dropSlashes s = s ↔ ¬ ['\\', '['] <:+: s := by
  fun_induction Reading.append.dropSlashes s with
  | case1 s ih =>
    refine iff_of_false (fun heq => ?_) (not_not.mpr ⟨[], s, rfl⟩)
    have hlen := (dropSlashes_sublist s).length_le
    have hlen' := congrArg List.length heq
    simp only [List.length_cons] at hlen'
    omega
  | case2 c s hne ih =>
    have hhead : ¬ ['\\', '['] <+: c :: s := by
      rintro ⟨rest, heq⟩
      obtain ⟨rfl, rfl⟩ := List.cons.inj heq
      exact hne rest rfl rfl
    rw [List.infix_cons_iff, not_or, and_iff_right hhead, ← ih, List.cons_inj_right]
  | case3 => simp

theorem visible_eq_self_iff : visible s = s ↔ ∀ c ∈ s, isCursorControl c = false := by
  simp [visible, List.filter_eq_self]

theorem append_replicate (r : Reading) (k : Nat) :
    r.append (List.replicate k '\\') = { r with plain := r.plain ++ List.replicate k '\\' } := by
  have hdrop : Reading.append.dropSlashes (List.replicate k '\\') = List.replicate k '\\' := by
    rw [dropSlashes_eq_self_iff]
    intro hin
    exact absurd (List.eq_of_mem_replicate (hin.subset (by simp : '[' ∈ _))) (by decide)
  have hvisible : visible (List.replicate k '\\') = List.replicate k '\\' := by
    rw [visible_eq_self_iff]
    intro c hc
    rw [List.eq_of_mem_replicate hc]
    decide
  rw [Reading.append, hdrop, hvisible]

/-- A live tag adds half of its backslashes. -/
theorem plain_step_tag {position slashes : Nat} {body : Text} (heven : ¬ slashes % 2 = 1)
    (h : r.step position (.tag slashes body) = .ok r') :
    r'.plain = r.plain ++ List.replicate (slashes / 2) '\\' := by
  simp only [Reading.step, if_neg heven, append_replicate] at h
  split at h
  · obtain ⟨_, -, _, -, rfl⟩ := Reading.of_closing_eq_ok h
    rfl
  · obtain ⟨_, -, rfl⟩ := Reading.of_opening_eq_ok h
    rfl

/-- **Reading a token** adds what is shown of it. -/
theorem plain_stepWith {position : Nat} {token : Token}
    (h : r.stepWith table position token = .ok r') : r'.plain = r.plain ++ shown table token := by
  cases token with
  | plain s =>
    obtain rfl := Except.ok.inj h
    rfl
  | tag slashes body =>
    rw [Reading.stepWith] at h
    split at h
    · rename_i hodd
      obtain rfl := Except.ok.inj h
      simp [append_replicate, Reading.appendWith, shown, shownText, hodd]
    · rename_i heven
      rw [shown, if_neg heven, List.append_nil]
      exact plain_step_tag heven h

theorem runWith_of_stepWith {position : Nat} {token : Token} {tokens : List Token}
    (h : r.stepWith table position token = .ok r') : r.runWith table position (token :: tokens) =
      r'.runWith table (position + token.text.length) tokens := by
  rw [Reading.runWith, h]
  rfl

/-- What has been read is what is shown of the tokens. -/
theorem plain_runWith {position : Nat} {tokens : List Token}
    (h : r.runWith table position tokens = .ok r') :
    r'.plain = r.plain ++ tokens.flatMap (shown table) := by
  induction tokens generalizing r position with
  | nil =>
    obtain rfl : r = r' := by simpa [Reading.runWith] using h
    simp
  | cons token tokens ih =>
    obtain ⟨next, hstep, h⟩ := exists_of_bind_eq_ok h
    rw [ih h, plain_stepWith hstep, List.flatMap_cons, List.append_assoc]

/-! ### Nothing is missing -/

theorem count_shownText_le (htable : table.IsColonFree) (s : Text) :
    (shownText table s).count ':' ≤ s.count ':' :=
  calc (shownText table s).count ':'
    _ ≤ (table.replaceCodes (Reading.append.dropSlashes s)).count ':' :=
      List.filter_sublist.count_le ':'
    _ ≤ (Reading.append.dropSlashes s).count ':' := EmojiTable.count_replaceCodes_le htable _
    _ ≤ s.count ':' := (dropSlashes_sublist s).count_le ':'

/-- Without an emoji, what is shown is a part of the text. -/
theorem shownText_sublist_of_le (htable : table.IsColonFree)
    (h : s.count ':' ≤ (shownText table s).count ':') : (shownText table s).Sublist s := by
  have hcodes : (Reading.append.dropSlashes s).count ':' ≤
      (table.replaceCodes (Reading.append.dropSlashes s)).count ':' :=
    ((dropSlashes_sublist s).count_le ':').trans (h.trans (List.filter_sublist.count_le ':'))
  rw [shownText, EmojiTable.replaceCodes_eq_self (EmojiTable.emoji?_eq_none_of_le htable hcodes)]
  exact List.filter_sublist.trans (dropSlashes_sublist s)

/-- **A text is shown as it is** if it has no backslash before a bracket, no known code and no
character that moves the cursor. -/
theorem shownText_eq_self_iff (htable : table.IsColonFree) : shownText table s = s ↔
    ¬ ['\\', '['] <:+: s ∧ (∀ c ∈ s, isCursorControl c = false) ∧
      ∀ body, .code body ∈ Markup.emojiPieces s → table.emoji? body = none := by
  constructor
  · intro heq
    have hcodes : (Reading.append.dropSlashes s).count ':' ≤
        (table.replaceCodes (Reading.append.dropSlashes s)).count ':' := by
      refine ((dropSlashes_sublist s).count_le ':').trans ?_
      conv_lhs => rw [← heq]
      exact List.filter_sublist.count_le ':'
    have hnone := EmojiTable.emoji?_eq_none_of_le htable hcodes
    rw [shownText, EmojiTable.replaceCodes_eq_self hnone] at heq
    have hdrop : Reading.append.dropSlashes s = s := by
      refine (dropSlashes_sublist s).eq_of_length_le ?_
      conv_lhs => rw [← heq]
      exact List.length_filter_le ..
    rw [hdrop] at heq hnone
    exact ⟨dropSlashes_eq_self_iff.mp hdrop, visible_eq_self_iff.mp heq, hnone⟩
  · rintro ⟨hslash, hcontrol, hnone⟩
    rw [shownText, dropSlashes_eq_self_iff.mpr hslash, EmojiTable.replaceCodes_eq_self hnone,
      visible_eq_self_iff.mpr hcontrol]

theorem text_tag (slashes : Nat) (body : Text) : (Token.tag slashes body).text =
    List.replicate slashes '\\' ++ '[' :: (body ++ [']']) := by
  simp [Token.text]

theorem count_replicate_slash (k : Nat) : (List.replicate k '\\').count ':' = 0 := by
  simp [List.count_replicate]

theorem count_shown_le (htable : table.IsColonFree) (token : Token) :
    (shown table token).count ':' ≤ token.text.count ':' := by
  cases token with
  | plain s => exact count_shownText_le htable s
  | tag slashes body =>
    rw [shown, text_tag, List.count_append, List.count_append, count_replicate_slash,
      count_replicate_slash, Nat.zero_add, Nat.zero_add]
    split
    · exact count_shownText_le htable _
    · exact Nat.zero_le _

/-- A tag with all its colons is shown shorter than it is, since backslashes are missing. -/
theorem length_shown_lt_of_tag (htable : table.IsColonFree) {slashes : Nat} {body : Text}
    (h : (Token.tag slashes body).text.count ':' ≤ (shown table (.tag slashes body)).count ':') :
    (shown table (.tag slashes body)).length < (Token.tag slashes body).text.length := by
  rw [shown, text_tag] at h ⊢
  rw [List.count_append, List.count_append, count_replicate_slash, count_replicate_slash,
    Nat.zero_add, Nat.zero_add] at h
  rw [List.length_append, List.length_append, List.length_replicate, List.length_replicate]
  split at h
  · rename_i hodd
    have hle := (shownText_sublist_of_le htable h).length_le
    rw [if_pos hodd]
    omega
  · rename_i heven
    rw [if_neg heven, List.length_nil, List.length_cons]
    omega

theorem length_shown_le (htable : table.IsColonFree) {token : Token}
    (h : token.text.count ':' ≤ (shown table token).count ':') :
    (shown table token).length ≤ token.text.length := by
  cases token with
  | plain s => exact (shownText_sublist_of_le htable h).length_le
  | tag slashes body => exact (length_shown_lt_of_tag htable h).le

/-- **If nothing is missing**, neither colons nor characters, then there is no tag, and every text
is shown as it is. -/
theorem exists_plain_of_le (htable : table.IsColonFree) {tokens : List Token}
    (hcount : (tokens.flatMap Token.text).count ':' ≤ (tokens.flatMap (shown table)).count ':')
    (hlength : (tokens.flatMap Token.text).length ≤ (tokens.flatMap (shown table)).length) :
    ∀ token ∈ tokens, ∃ s, token = .plain s ∧ shownText table s = s := by
  rw [List.count_flatMap, List.count_flatMap] at hcount
  rw [List.length_flatMap, List.length_flatMap] at hlength
  have hcounts := Markup.le_of_sum_map_le (fun token _ => count_shown_le htable token) hcount
  have hlengths := Markup.le_of_sum_map_le
    (fun token htoken => length_shown_le htable (hcounts token htoken)) hlength
  intro token htoken
  have hlen := hlengths token htoken
  cases token with
  | plain s =>
    exact ⟨s, rfl, (shownText_sublist_of_le htable (hcounts _ htoken)).eq_of_length_le hlen⟩
  | tag slashes body => exact absurd (length_shown_lt_of_tag htable (hcounts _ htoken)) hlen.not_gt

/-! ### Text in a pair of tags -/

variable {name : Text}

/-- An opening tag begins a span. -/
theorem stepWith_opening (h : IsStyleName name) (r : Reading) (position : Nat) :
    r.stepWith table position (.tag 0 name) =
      .ok { r with openTags := (r.plain.length, ⟨name, none⟩) :: r.openTags } := by
  have hslash (rest : Text) : name ≠ '/' :: rest := by
    rintro rfl
    exact h.head.1 rfl
  simp only [Reading.stepWith, Reading.step, append_replicate, h.split]
  rw [if_neg (by decide), if_neg (by decide)]
  simp [Reading.opening, h.readStyle_eq, Except.map]

/-- A closing tag ends the span that was begun under its name last. -/
theorem stepWith_closing (h : IsStyleName name) {start : Nat} {rest : List (Nat × Tag)}
    (hopen : r.openTags = (start, ⟨name, none⟩) :: rest) (position : Nat) :
    r.stepWith table position (.tag 0 ('/' :: name)) =
      .ok { r with openTags := rest, spans := ⟨start, r.plain.length, name⟩ :: r.spans } := by
  have hclosed : Tag.closedStyle ⟨name, none⟩ = name := by
    simp [Tag.closedStyle, h.isHandler_eq, Tag.style]
  simp only [Reading.stepWith, Reading.step, append_replicate, h.split_closing]
  rw [if_neg (by decide), if_neg (by decide)]
  simp [Reading.closing, h.closable_eq, hopen, Reading.ending, h.canEnd_eq, hclosed, bind,
    Except.bind]

/-- What has been read when a text in a pair of tags is read. -/
def Reading.marked (table : EmojiTable) (r : Reading) (name s : Text) : Reading where
  plain := r.plain ++ shownText table s
  openTags := r.openTags
  spans := ⟨r.plain.length, r.plain.length + (shownText table s).length, name⟩ :: r.spans

/-- **A text in a pair of tags** is shown with a span on it. -/
theorem runWith_pair (table : EmojiTable) (h : IsStyleName name) (r : Reading) (position : Nat)
    (s : Text) (tokens : List Token) : ∃ next,
      r.runWith table position (.tag 0 name :: .plain s :: .tag 0 ('/' :: name) :: tokens) =
        (r.marked table name s).runWith table next tokens := by
  refine ⟨position + (Token.tag 0 name).text.length + (Token.plain s).text.length +
    (Token.tag 0 ('/' :: name)).text.length, ?_⟩
  rw [runWith_of_stepWith (stepWith_opening h r _), runWith_of_stepWith rfl,
    runWith_of_stepWith (stepWith_closing h rfl _)]
  simp [Reading.marked, Reading.appendWith, shownText]

end Styled

end NativeFinder
