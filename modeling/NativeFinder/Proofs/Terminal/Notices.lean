import Mathlib.Data.List.Induction
import NativeFinder.Proofs.Markup.Shown
import NativeFinder.Proofs.Terminal.Selecting

/-!
# Which lines a notice repeats faithfully

A line that is no command is rejected by a notice that repeats it. The line is put between two tags
without being escaped, so it is read as markup: a tag in it is not shown, or makes the notice
unreadable, and a backslash at its end belongs to the closing tag of the notice.

`handle_rejects_faithfully_iff` says of which lines the notice is faithful: exactly of those that
are `IsEchoable`. For the converse, no case of what may go wrong has to be followed through: where
the notice shows all of the line, neither a colon nor a character is missing, and then nothing has
gone wrong (`Styled.exists_plain_of_le`).
-/

namespace NativeFinder

open Markup (EmojiTable Token)

/-- A text that is **shown as it is** between two tags. -/
structure IsEchoable (table : EmojiTable) (s : Text) : Prop where
  tagless : ¬ Markup.HoldsTag s
  unslashed : ¬ ['\\', '['] <:+: s
  last : ¬ ['\\'] <:+ s
  visible : ∀ c ∈ s, Styled.isCursorControl c = false
  codeless : ∀ body, .code body ∈ Markup.emojiPieces s → table.emoji? body = none

variable {s v a b : Text} {table : EmojiTable} {k : Nat}

/-! ### Text between two tags -/

/-- The style of a notice. -/
def noticeStyle : Text := "red"

/-- A text between the tags of a notice. -/
def inNotice (s : Text) : Text :=
  '[' :: (noticeStyle ++ ']' :: (s ++ '[' :: ('/' :: noticeStyle ++ [']'])))

theorem isStyleName_noticeStyle : Styled.IsStyleName noticeStyle where
  opening := ⟨⟨'r', rfl, by decide⟩, by decide⟩
  closing := ⟨⟨'/', rfl, by decide⟩, by decide⟩
  split := by decide
  split_closing := by decide
  canonical := by decide +kernel
  trimmed := by decide
  head := by decide

/-- The backslashes at the end of a text, and what stands before them. -/
theorem exists_append_replicate_slash (s : Text) :
    ∃ v k, s = v ++ List.replicate k '\\' ∧ ¬ ['\\'] <:+ v := by
  induction s using List.reverseRecOn with
  | nil => exact ⟨[], 0, rfl, by simp⟩
  | append_singleton s c ih =>
    by_cases hc : c = '\\'
    · obtain ⟨v, k, rfl, hv⟩ := ih
      exact ⟨v, k + 1, by rw [hc, List.replicate_succ', List.append_assoc], hv⟩
    · refine ⟨s ++ [c], 0, by simp, fun ⟨t, ht⟩ => hc ?_⟩
      exact (List.singleton_inj.mp (List.append_inj' ht rfl).2).symm

/-- **The tokens of a notice**: backslashes at the end of its text belong to the closing tag. -/
theorem tokens_inNotice (hv : ¬ ['\\'] <:+ v) (k : Nat) :
    Markup.tokens (inNotice (v ++ List.replicate k '\\')) =
      .tag 0 noticeStyle :: (Markup.tokens v ++ [.tag k ('/' :: noticeStyle)]) := by
  have hopen := Markup.tag?_tag isStyleName_noticeStyle.opening 0
    (v ++ (List.replicate k '\\' ++ '[' :: ('/' :: noticeStyle ++ ']' :: [])))
  have hclose := Markup.tag?_tag isStyleName_noticeStyle.closing k []
  have hnotice : inNotice (v ++ List.replicate k '\\') =
      List.replicate 0 '\\' ++ '[' :: (noticeStyle ++ ']' ::
        (v ++ (List.replicate k '\\' ++ '[' :: ('/' :: noticeStyle ++ ']' :: [])))) := by
    simp [inNotice]
  rw [hnotice, Markup.tokens_of_tag hopen, Markup.tokens_append hv (by rw [hclose]; rfl),
    Markup.tokens_of_tag hclose]
  simp [Markup.tokens]

theorem open_mem_inNotice (s : Text) : '[' ∈ inNotice s := List.mem_cons_self ..

theorem shownText_closing : Styled.shownText table ('[' :: '/' :: (noticeStyle ++ [']'])) =
    '[' :: '/' :: (noticeStyle ++ [']']) := by
  have hcodes : ∀ body, .code body ∈ Markup.emojiPieces ('[' :: '/' :: (noticeStyle ++ [']'])) →
      table.emoji? body = none := by
    intro body hbody
    have hcolon := (Markup.isInfix_of_code_mem hbody).1.subset (List.mem_cons_self ..)
    exact absurd hcolon (by decide)
  have hdrop : Styled.Reading.append.dropSlashes ('[' :: '/' :: (noticeStyle ++ [']'])) =
      '[' :: '/' :: (noticeStyle ++ [']']) := by decide
  rw [Styled.shownText, hdrop, EmojiTable.replaceCodes_eq_self hcodes]
  decide

/-- **If all of a text is shown**, no backslash stands at its end, and its tokens are plain and
shown as they are. -/
theorem forall_plain_of_shown_eq (htable : table.IsColonFree)
    (h : (Markup.tokens v).flatMap (Styled.shown table) ++
        Styled.shown table (.tag k ('/' :: noticeStyle)) = v ++ List.replicate k '\\') :
    k = 0 ∧ ∀ token ∈ Markup.tokens v, ∃ s, token = .plain s ∧ Styled.shownText table s = s := by
  rcases Nat.mod_two_eq_zero_or_one k with heven | hodd
  · rw [Styled.shown, if_neg (by omega), List.append_nil] at h
    have htext := Markup.flatMap_text_tokens v
    have hcount := congrArg (List.count ':') h
    rw [List.count_append, List.count_append, Styled.count_replicate_slash,
      Styled.count_replicate_slash, Nat.add_zero, Nat.add_zero] at hcount
    have hlength := congrArg List.length h
    simp only [List.length_append, List.length_replicate] at hlength
    have hplain := Styled.exists_plain_of_le htable (by rw [htext, hcount])
      (by rw [htext]; omega)
    refine ⟨?_, hplain⟩
    have hall : (Markup.tokens v).flatMap (Styled.shown table) = v := by
      conv_rhs => rw [← htext]
      refine List.flatMap_congr fun token htoken => ?_
      obtain ⟨s, rfl, hs⟩ := hplain token htoken
      exact hs
    rw [hall] at hlength
    omega
  · -- what is shown ends with the bracket of the closing tag, and the text with a backslash
    obtain ⟨n, rfl⟩ : ∃ n, k = n + 1 := ⟨k - 1, by omega⟩
    rw [Styled.shown, if_pos hodd, List.cons_append, shownText_closing, List.replicate_succ',
      ← List.append_assoc v] at h
    have hlast := congrArg List.getLast? h
    simp only [List.getLast?_append, List.getLast?_cons_cons] at hlast
    exact absurd hlast (by simp; decide)

/-- **A notice shows its text as it is** exactly if the text is echoable. -/
theorem exists_ofMarkupWith_inNotice_iff (htable : table.IsColonFree) (hs : s ≠ []) :
    (∃ styled, Styled.ofMarkupWith table (inNotice s) = .ok styled ∧ styled.plain = s) ↔
      IsEchoable table s := by
  constructor
  · rintro ⟨styled, hread, hplain⟩
    obtain ⟨v, k, rfl, hv⟩ := exists_append_replicate_slash s
    rw [Styled.ofMarkupWith, if_pos (open_mem_inNotice _), tokens_inNotice hv] at hread
    obtain ⟨r, hrun, hfinish⟩ := exists_of_bind_eq_ok hread
    rw [Styled.Reading.plain_of_finish hfinish] at hplain
    have hshown : (Markup.tokens v).flatMap (Styled.shown table) ++
        Styled.shown table (.tag k ('/' :: noticeStyle)) = v ++ List.replicate k '\\' := by
      rw [← hplain, Styled.plain_runWith hrun]
      simp [Styled.shown]
    obtain ⟨rfl, htokens⟩ := forall_plain_of_shown_eq htable hshown
    rw [List.replicate_zero, List.append_nil] at hs ⊢
    have htagless : ¬ Markup.HoldsTag v := by
      rw [← Markup.exists_tag_mem_tokens_iff]
      rintro ⟨slashes, body, htag⟩
      obtain ⟨s, heq, -⟩ := htokens _ htag
      cases heq
    have hself : Styled.shownText table v = v := by
      rw [Markup.tokens_of_plain htagless hs] at htokens
      simpa using htokens
    obtain ⟨hslash, hvisible, hcodes⟩ := (Styled.shownText_eq_self_iff htable).mp hself
    exact ⟨htagless, hslash, hv, hvisible, hcodes⟩
  · intro h
    have htokens := tokens_inNotice h.last 0
    rw [List.replicate_zero, List.append_nil, Markup.tokens_of_plain h.tagless hs] at htokens
    obtain ⟨next, hnext⟩ := Styled.runWith_pair table isStyleName_noticeStyle {} 0 s []
    have hself := (Styled.shownText_eq_self_iff htable).mpr ⟨h.unslashed, h.visible, h.codeless⟩
    let r := Styled.Reading.marked table {} noticeStyle s
    refine ⟨{ plain := r.plain, spans := r.allSpans }, ?_, ?_⟩
    · have hdrawn : r.CanBeDrawn :=
        ⟨by simp [r, Styled.Reading.marked],
          by simpa [r, Styled.Reading.marked] using isStyleName_noticeStyle.isDrawable⟩
      rw [Styled.ofMarkupWith, if_pos (open_mem_inNotice _), htokens, List.singleton_append, hnext]
      exact hdrawn.finish_eq
    · simp [r, Styled.Reading.marked, hself]

/-! ### The line behind the heading -/

/-- What a notice says before the line. -/
def noticeHeading : Text := "Unknown command or row: "

theorem unknownNotice_eq (line : Text) :
    Terminal.unknownNotice line = inNotice (noticeHeading ++ line) := by
  have hopening : "[red]Unknown command or row: ".toList =
      '[' :: (noticeStyle ++ ']' :: noticeHeading) := by decide
  have hclosing : "[/red]".toList = '[' :: ('/' :: noticeStyle ++ [']']) := by decide
  have hsplit : '[' :: (noticeStyle ++ ']' :: noticeHeading) ++ line ++
      '[' :: ('/' :: noticeStyle ++ [']']) = inNotice (noticeHeading ++ line) := by
    unfold inNotice
    simp only [List.append_assoc, List.cons_append]
  unfold Terminal.unknownNotice
  rw [hopening, hclosing, hsplit]

theorem isInfix_append_iff {c : Char} (h : c ∉ a) : c :: s <:+: a ++ b ↔ c :: s <:+: b := by
  induction a with
  | nil => rfl
  | cons d a ih =>
    obtain ⟨hd, ha⟩ : c ≠ d ∧ c ∉ a := by simpa using h
    rw [List.cons_append, List.infix_cons_iff, List.cons_prefix_cons, ih ha]
    simp [hd]

theorem isSuffix_append_iff {c : Char} (h : c ∉ a) : c :: s <:+ a ++ b ↔ c :: s <:+ b := by
  induction a with
  | nil => rfl
  | cons d a ih =>
    obtain ⟨hd, ha⟩ : c ≠ d ∧ c ∉ a := by simpa using h
    rw [List.cons_append, List.suffix_cons_iff, List.cons.injEq, ih ha]
    simp [hd]

/-- No code begins in the heading: a blank stands behind its colon. -/
theorem code_mem_emojiPieces_heading_iff (body : Text) :
    .code body ∈ Markup.emojiPieces (noticeHeading ++ s) ↔ .code body ∈ Markup.emojiPieces s := by
  have hplain {a : Text} (ha : ':' ∉ a) (b : Text) :
      .code body ∈ Markup.emojiPieces (a ++ b) ↔ .code body ∈ Markup.emojiPieces b := by
    induction a with
    | nil => rfl
    | cons c a ih =>
      obtain ⟨hc, ha⟩ : ':' ≠ c ∧ ':' ∉ a := by simpa using ha
      have hnone : Markup.emojiCode? (c :: (a ++ b)) = none := by
        rw [Markup.emojiCode?]
        simpa using hc.symm
      rw [List.cons_append, Markup.emojiPieces_cons_of_eq_none hnone, List.mem_cons, ih ha]
      simp
  have hheading : noticeHeading ++ s = "Unknown command or row".toList ++ ':' :: ' ' :: s := by
    have : noticeHeading = "Unknown command or row".toList ++ [':', ' '] := by decide
    simp [this]
  have hnone : Markup.emojiCode? (':' :: ' ' :: s) = none := rfl
  rw [hheading, hplain (by decide), Markup.emojiPieces_cons_of_eq_none hnone, List.mem_cons]
  simpa using hplain (a := [' ']) (by decide) s

/-- **Nothing depends on the heading.** -/
theorem isEchoable_heading_iff (line : Text) :
    IsEchoable table (noticeHeading ++ line) ↔ IsEchoable table line := by
  have hopen : '[' ∉ noticeHeading := by decide
  have hslash : '\\' ∉ noticeHeading := by decide
  have hvisible : ∀ c ∈ noticeHeading, Styled.isCursorControl c = false :=
    Styled.visible_eq_self_iff.mp (by decide)
  have htag : Markup.HoldsTag (noticeHeading ++ line) ↔ Markup.HoldsTag line := by
    simp only [Markup.HoldsTag, isInfix_append_iff hopen]
  constructor
  · rintro ⟨htagless, hunslashed, hlast, hcontrol, hcodes⟩
    refine ⟨mt htag.mpr htagless, ?_, ?_, ?_, ?_⟩
    · rwa [isInfix_append_iff hslash] at hunslashed
    · rwa [isSuffix_append_iff hslash] at hlast
    · exact (List.forall_mem_append.mp hcontrol).2
    · simpa only [code_mem_emojiPieces_heading_iff] using hcodes
  · rintro ⟨htagless, hunslashed, hlast, hcontrol, hcodes⟩
    refine ⟨mt htag.mp htagless, ?_, ?_, ?_, ?_⟩
    · rwa [isInfix_append_iff hslash]
    · rwa [isSuffix_append_iff hslash]
    · exact List.forall_mem_append.mpr ⟨hvisible, hcontrol⟩
    · simpa only [code_mem_emojiPieces_heading_iff] using hcodes

/-! ### Rejected lines -/

namespace Terminal

variable {t : Terminal} {text markup : Text}

/-- The calls of a session show no notice. -/
theorem markup_not_mem_answerAll (surface : TerminalSurface) (calls : List SurfaceCall) :
    .markup markup ∉ (surface.answerAll calls).2.1 := by
  have hhide (surface : TerminalSurface) : .markup markup ∉ surface.hideBusy.2 := by
    unfold TerminalSurface.hideBusy
    split <;> simp
  have hanswer {surface next : TerminalSurface} {call : SurfaceCall} {events : List ScreenEvent}
      (h : surface.answer call = .ok (next, events)) : .markup markup ∉ events := by
    cases call with
    | setBusy busy =>
      cases busy with
      | true =>
        simp only [TerminalSurface.answer, Except.ok.injEq] at h
        split at h
        · obtain ⟨-, rfl⟩ := Prod.mk.inj h
          simp
        · obtain ⟨-, rfl⟩ := Prod.mk.inj h
          simp
      | false =>
        obtain ⟨-, rfl⟩ := Prod.mk.inj (Except.ok.inj h)
        exact hhide surface
    | setRows rows =>
      obtain ⟨-, rfl⟩ := Prod.mk.inj (Except.ok.inj h)
      split <;> simp
    | showDetail d =>
      obtain ⟨panel, -, heq⟩ := exists_of_map_eq_ok h
      obtain ⟨-, rfl⟩ := Prod.mk.inj heq
      simp
    | close =>
      obtain ⟨-, rfl⟩ := Prod.mk.inj (Except.ok.inj h)
      exact hhide surface
  induction calls generalizing surface with
  | nil => simp [TerminalSurface.answerAll]
  | cons call calls ih =>
    rw [TerminalSurface.answerAll]
    cases h : surface.answer call with
    | error e => simp
    | ok found => simpa using ⟨hanswer h, ih found.1⟩

theorem markup_not_mem_ofSessionStep (step : Session.Step) :
    .markup markup ∉ (t.ofSessionStep step).events :=
  markup_not_mem_answerAll t.surface step.calls

theorem markup_not_mem_select (row : Row) : .markup markup ∉ (t.select row).events := by
  unfold select
  split
  · rename_i e _
    unfold Step.andThen
    split
    · exact markup_not_mem_ofSessionStep _
    · have hdismiss (t : Terminal) : .markup markup ∉ t.dismiss.events :=
        markup_not_mem_ofSessionStep _
      simpa using ⟨markup_not_mem_ofSessionStep _, hdismiss _⟩
  · exact markup_not_mem_ofSessionStep _

/-- **A notice** repeats the line without the blanks around it. -/
theorem eq_unknownNotice_of_mem_events (h : .markup markup ∈ (t.handle (.line text)).events) :
    markup = unknownNotice (Text.trim text) := by
  have hreject (line : Text) (h : .markup markup ∈ (t.reject line).events) :
      markup = unknownNotice line := by simpa [reject] using h
  rw [handle, Command.ofLine] at h
  split at h
  · rename_i rest hline
    rw [hline]
    simp only at h
    split at h
    · exact absurd h (markup_not_mem_ofSessionStep _)
    · split at h
      · rw [obey] at h
        split at h
        · simp at h
        · split at h
          · exact absurd h (markup_not_mem_select _)
          · exact hreject _ h
      · exact hreject _ h
  · exact absurd h (markup_not_mem_ofSessionStep _)

/-- **When a notice is faithful.** A line that is rejected is repeated without the blanks around it,
and the notice can be read and shows the line as it is exactly if the line is echoable, whatever
emoji the console knows. -/
theorem handle_rejects_faithfully_iff (htable : table.IsColonFree)
    (h : .markup markup ∈ (t.handle (.line text)).events) :
    let line := Text.trim text
    markup = unknownNotice line ∧
      ((∃ styled, Styled.ofMarkup markup = .ok styled ∧
          styled.plain = noticeHeading ++ line) ↔ IsEchoable [] line) ∧
      ((∃ styled, Styled.ofMarkupWith table markup = .ok styled ∧
          styled.plain = noticeHeading ++ line) ↔ IsEchoable table line) := by
  intro line
  have hnotice : markup = unknownNotice line := eq_unknownNotice_of_mem_events h
  have hread {table : EmojiTable} (htable : table.IsColonFree) :
      (∃ styled, Styled.ofMarkupWith table markup = .ok styled ∧
        styled.plain = noticeHeading ++ line) ↔ IsEchoable table line := by
    rw [hnotice, unknownNotice_eq, ← isEchoable_heading_iff]
    exact exists_ofMarkupWith_inNotice_iff htable (List.append_ne_nil_of_left_ne_nil (by decide) _)
  refine ⟨hnotice, ?_, hread htable⟩
  rw [← Styled.ofMarkupWith_nil]
  exact hread (by simp [EmojiTable.IsColonFree])

/-- A command that is misspelt is repeated, though the console knows an emoji of its name. -/
theorem handle_rejects_faithfully_of_word :
    let t := (started .standard .console (.texts
      ["/** a */\nnative A takes nothing returns nothing"])).terminal
    let table : EmojiTable := [("x", "❌")]
    table.IsColonFree ∧ .markup (unknownNotice ":x") ∈ (t.handle (.line ":x ")).events ∧
      IsEchoable table ":x" ∧
        ∃ styled, Styled.ofMarkupWith table (unknownNotice ":x") = .ok styled ∧
          styled.plain = "Unknown command or row: :x" := by
  intro t table
  have htable : table.IsColonFree := by simp [table, EmojiTable.IsColonFree]
  have hmem : .markup (unknownNotice ":x") ∈ (t.handle (.line ":x ")).events := by decide +kernel
  have hechoable : IsEchoable table ":x" := by
    have hslash : '\\' ∉ ":x".toList := by decide
    refine ⟨Markup.not_holdsTag_of_not_mem (by decide),
      fun h => hslash (h.subset (List.mem_cons_self ..)),
      fun h => hslash (h.subset (List.mem_cons_self ..)),
      Styled.visible_eq_self_iff.mp (by decide), fun body hbody => ?_⟩
    have hcount := (Markup.isInfix_of_code_mem hbody).1.sublist.count_le ':'
    simp at hcount
  obtain ⟨styled, hread, hplain⟩ := (handle_rejects_faithfully_iff htable hmem).2.2.mpr hechoable
  exact ⟨htable, hmem, hechoable, styled, hread, hplain⟩

/-- **A notice can leave out a part of the line, or not be readable**: a tag in the line is read as
one. -/
theorem exists_unfaithful_notice :
    let t := (started .standard .console (.texts
      ["/** a */\nnative A takes nothing returns nothing"])).terminal
    (t.handle (.line ":[b]x")).events = [.markup (unknownNotice ":[b]x")] ∧
      (Styled.ofMarkup (unknownNotice ":[b]x")).toOption.map Styled.plain =
        some "Unknown command or row: :x".toList ∧
      (t.handle (.line ":[/x]")).events = [.markup (unknownNotice ":[/x]")] ∧
        (Styled.ofMarkup (unknownNotice ":[/x]")).toOption = none := by
  decide +kernel

end Terminal

end NativeFinder
