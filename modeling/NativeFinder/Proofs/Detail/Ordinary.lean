import Mathlib.Data.List.Nodup
import NativeFinder.Proofs.Detail.Panel
import NativeFinder.Proofs.Detail.Renderings
import NativeFinder.Proofs.Markup.Shown

/-!
# Panels of ordinary entries

A text is **ordinary** if the console has nothing to change in it (`IsOrdinary`): no bracket and no
backslash, no character that moves the cursor, and nothing that looks like the code of an emoji.
Such a text needs no escaping, and so the only tags of the marked text are the marks.

Reading goes through the stretches of the text (`runWith_markAll`). What is behind the last mark
waits, as text that has not been read yet, for the next mark or for the end; the invariant is that
the spans so far are those of the tokens, in reverse. `exists_panel_of_isOrdinary` says what a panel
shows in the end: the texts of the entry as they are, with a span on each token and no other.
-/

namespace NativeFinder

open Markup (EmojiTable)

/-- A text that the console shows **as it is**. -/
structure IsOrdinary (s : Text) : Prop where
  bracketless : '[' ∉ s
  slashless : '\\' ∉ s
  visible : ∀ c ∈ s, Styled.isCursorControl c = false
  codeless : ∀ body, (∀ c ∈ body, Character.isBlank c = false) → ¬ ':' :: (body ++ [':']) <:+: s

namespace IsOrdinary

variable {s t : Text} {table : EmojiTable}

theorem of_isInfix (h : IsOrdinary s) (hin : t <:+: s) : IsOrdinary t where
  bracketless hmem := h.bracketless (hin.subset hmem)
  slashless hmem := h.slashless (hin.subset hmem)
  visible c hc := h.visible c (hin.subset hc)
  codeless body hbody hcode := h.codeless body hbody (hcode.trans hin)

/-- A single colon begins no code. -/
theorem of_count_le (hopen : '[' ∉ s ∧ '\\' ∉ s) (hvisible : Styled.visible s = s)
    (hcolon : s.count ':' ≤ 1) : IsOrdinary s where
  bracketless := hopen.1
  slashless := hopen.2
  visible := Styled.visible_eq_self_iff.mp hvisible
  codeless body _ hin := by
    have hle := hin.sublist.count_le ':'
    simp only [List.count_cons_self, List.count_append, List.count_nil] at hle
    omega

theorem not_isSuffix_slash (h : IsOrdinary s) : ¬ ['\\'] <:+ s := fun hs =>
  h.slashless (hs.subset (List.mem_singleton.mpr rfl))

theorem replaceCodes_eq (h : IsOrdinary s) : table.replaceCodes s = s := by
  refine EmojiTable.replaceCodes_eq_self fun body hbody => ?_
  obtain ⟨hin, hall⟩ := Markup.isInfix_of_code_mem hbody
  refine absurd hin (h.codeless body fun c hc => ?_)
  have hc := hall c hc
  simp only [Markup.isCodeChar, Bool.and_eq_true, Bool.not_eq_true'] at hc
  exact hc.2

/-- **An ordinary text is shown as it is**, whatever emoji the console knows. -/
theorem shownText_eq (h : IsOrdinary s) (table : EmojiTable) : Styled.shownText table s = s := by
  have hslash : ¬ ['\\', '['] <:+: s := fun hin => h.slashless (hin.subset (List.mem_cons_self ..))
  rw [Styled.shownText, Styled.dropSlashes_eq_self_iff.mpr hslash, h.replaceCodes_eq,
    Styled.visible_eq_self_iff.mpr h.visible]

/-- An ordinary text needs no escaping. -/
theorem escape_eq (h : IsOrdinary s) : Markup.escape s = s := by
  have hguarded : Markup.guarded s = s := by
    have hs : ∀ c ∈ s, c ≠ '\\' ∧ c ≠ '[' := fun c hc =>
      ⟨fun heq => h.slashless (heq ▸ hc), fun heq => h.bracketless (heq ▸ hc)⟩
    clear h
    induction s with
    | nil => rfl
    | cons c s ih =>
      obtain ⟨hc, hs⟩ := List.forall_mem_cons.mp hs
      rw [Markup.guarded_of_ne hc.1 hc.2, ih hs]
  have hlast (rest : Text) : s.reverse ≠ '\\' :: rest := by
    intro heq
    exact h.slashless (List.mem_reverse.mp (heq ▸ List.mem_cons_self ..))
  rw [Markup.escape, Markup.flatMap_escaped_tokens, hguarded, Markup.closeSlash]
  split
  · rfl
  · exact absurd ‹_› (hlast _)
  · rfl

/-- Reading an ordinary text adds it, whatever comes behind it. -/
theorem exists_runWith_tokens_append (h : IsOrdinary s) (table : EmojiTable)
    (r : Styled.Reading) (position : Nat) (tokens : List Markup.Token) : ∃ next,
      r.runWith table position (Markup.tokens s ++ tokens) =
        Styled.Reading.runWith table { r with plain := r.plain ++ s } next tokens := by
  by_cases hs : s = []
  · subst hs
    exact ⟨position, by simp [Markup.tokens]⟩
  · refine ⟨position + s.length, ?_⟩
    rw [Markup.tokens_of_plain (Markup.not_holdsTag_of_not_mem h.bracketless) hs,
      List.singleton_append, Styled.runWith_of_stepWith rfl]
    have hshown := h.shownText_eq table
    rw [Styled.shownText] at hshown
    simp only [Styled.Reading.appendWith, hshown]
    rfl

end IsOrdinary

namespace Highlight

variable {s before : Text} {stretches : List Stretch} {table : EmojiTable}

/-! ### Marked texts -/

/-- The span on a token. -/
def Place.span (p : Place) : Span := ⟨p.start, p.stop, styleName p.kind⟩

/-- **The tokens of a marked text**: what stands before the first mark, the mark, its word, and the
closing mark. -/
theorem tokens_markAll_token {word : Text} (hbefore : IsOrdinary before) (hword : IsOrdinary word)
    (hne : word ≠ []) (kind : TokenKind) (stretches : List Stretch) :
    Markup.tokens (before ++ Rendering.console.markAll (.token kind word :: stretches)) =
      Markup.tokens before ++ (.tag 0 (styleName kind) :: .plain word ::
        .tag 0 ('/' :: styleName kind) :: Markup.tokens (Rendering.console.markAll stretches)) := by
  obtain ⟨hopening, hclosing⟩ := isBody_styleName kind
  have hmark : Rendering.console.markAll (.token kind word :: stretches) =
      '[' :: (styleName kind ++ ']' :: (word ++ '[' :: ('/' :: styleName kind ++ ']' ::
        Rendering.console.markAll stretches))) := by
    simp [Rendering.markAll, Rendering.mark, marks_console]
  have hopen (rest : Text) := Markup.tag?_tag hopening 0 rest
  have hclose (rest : Text) := Markup.tag?_tag hclosing 0 rest
  simp only [List.replicate_zero, List.nil_append] at hopen hclose
  rw [hmark, Markup.tokens_append hbefore.not_isSuffix_slash (by rw [hopen]; rfl),
    Markup.tokens_of_tag (hopen _),
    Markup.tokens_append hword.not_isSuffix_slash (by rw [hclose]; rfl),
    Markup.tokens_of_plain (Markup.not_holdsTag_of_not_mem hword.bracketless) hne,
    Markup.tokens_of_tag (hclose _)]
  rfl

/-- **Reading a marked text** adds the text, and a span for each of its tokens. -/
theorem runWith_markAll (table : EmojiTable) (before : Text)
    (hs : IsOrdinary (before ++ stretches.flatMap Stretch.text))
    (hwords : ∀ kind word, .token kind word ∈ stretches → word ≠ []) (r : Styled.Reading)
    (position : Nat) :
    r.runWith table position (Markup.tokens (before ++ Rendering.console.markAll stretches)) =
      .ok { r with
        plain := r.plain ++ (before ++ stretches.flatMap Stretch.text)
        spans := ((placesFrom (r.plain.length + before.length) stretches).map Place.span).reverse ++
          r.spans } := by
  induction stretches generalizing before r position with
  | nil =>
    have hbefore : IsOrdinary before := by simpa using hs
    obtain ⟨next, hnext⟩ := hbefore.exists_runWith_tokens_append table r position []
    simp only [Rendering.markAll, List.flatMap_nil, List.append_nil, placesFrom] at hnext ⊢
    rw [hnext]
    rfl
  | cons stretch stretches ih =>
    have hwords' : ∀ kind word, .token kind word ∈ stretches → word ≠ [] :=
      fun kind word hmem => hwords kind word (List.mem_cons_of_mem _ hmem)
    cases stretch with
    | plain t =>
      have hmark : Rendering.console.markAll (.plain t :: stretches) =
          t ++ Rendering.console.markAll stretches := rfl
      have hih := ih (before ++ t) (by simpa [Stretch.text] using hs) hwords' r position
      simpa [hmark, Stretch.text, placesFrom, Nat.add_assoc] using hih
    | token kind word =>
      have hbefore : IsOrdinary before := hs.of_isInfix (List.prefix_append _ _).isInfix
      have hword : IsOrdinary word :=
        hs.of_isInfix ⟨before, stretches.flatMap Stretch.text, by simp [Stretch.text]⟩
      have hrest : IsOrdinary ([] ++ stretches.flatMap Stretch.text) :=
        hs.of_isInfix ⟨before ++ word, [], by simp [Stretch.text]⟩
      have hne : word ≠ [] := hwords kind word (List.mem_cons_self ..)
      rw [tokens_markAll_token hbefore hword hne]
      obtain ⟨next, hnext⟩ := hbefore.exists_runWith_tokens_append table r position
        (.tag 0 (styleName kind) :: .plain word :: .tag 0 ('/' :: styleName kind) ::
          Markup.tokens (Rendering.console.markAll stretches))
      obtain ⟨after, hafter⟩ := Styled.runWith_pair table (isStyleName_styleName kind)
        { r with plain := r.plain ++ before } next word
        (Markup.tokens (Rendering.console.markAll stretches))
      have hih := ih [] hrest hwords' (Styled.Reading.marked table
        { r with plain := r.plain ++ before } (styleName kind) word) after
      rw [List.nil_append] at hih
      rw [hnext, hafter, hih]
      simp [Styled.Reading.marked, hword.shownText_eq, placesFrom, Place.span, Place.stop,
        Stretch.text, Nat.add_assoc]

theorem token_mem_of_mem_placesFrom {p : Place} {start : Nat} (h : p ∈ placesFrom start stretches) :
    .token p.kind p.word ∈ stretches := by
  induction stretches generalizing start with
  | nil => cases h
  | cons stretch stretches ih =>
    cases stretch with
    | plain t => exact List.mem_cons_of_mem _ (ih h)
    | token kind word =>
      rcases List.mem_cons.mp h with rfl | h
      · exact List.mem_cons_self ..
      · exact List.mem_cons_of_mem _ (ih h)

/-- Sorting puts spans that were collected from the last to the first back in order. -/
theorem mergeSort_reverse {spans : List Span} (h : spans.Pairwise fun a b => a.start < b.start) :
    (spans.reverse.mergeSort fun a b => a.start ≤ b.start) = spans := by
  have hnodup : (spans.map Span.start).Nodup :=
    List.pairwise_map.mpr (h.imp fun hlt => Nat.ne_of_lt hlt)
  have hsorted : (spans.reverse.mergeSort fun a b => a.start ≤ b.start).Pairwise
      fun a b => a.start ≤ b.start := by
    refine (List.pairwise_mergeSort (fun a b c hab hbc => ?_) (fun a b => ?_) _).imp
      fun hab => by simpa using hab
    · simp only [decide_eq_true_eq] at *
      omega
    · simp only [Bool.or_eq_true, decide_eq_true_eq]
      omega
  have hperm := (List.mergeSort_perm spans.reverse fun a b => decide (a.start ≤ b.start)).trans
    (List.reverse_perm spans)
  refine List.Perm.eq_of_pairwise ?_ hsorted (h.imp Nat.le_of_lt) hperm
  intro a b ha hb hab hba
  exact List.inj_on_of_nodup_map hnodup (hperm.mem_iff.mp ha) hb (Nat.le_antisymm hab hba)

/-- The spans on the tokens stand in order. -/
theorem pairwise_span (hwords : ∀ kind word, .token kind word ∈ stretches → word ≠ []) :
    ((places stretches).map Place.span).Pairwise fun a b => a.start < b.start := by
  rw [List.pairwise_map]
  refine (pairwise_places stretches).imp_of_mem fun {p q} hp _ hpq => ?_
  have hpos := List.length_pos_iff.mpr (hwords _ _ (token_mem_of_mem_placesFrom hp))
  simp only [Place.stop, Place.span] at hpq ⊢
  omega

/-- **An ordinary text** is shown as it is when its tokens are marked, with a span on each of
them. -/
theorem ofMarkupWith_markAll (table : EmojiTable) (hcut : Cut s stretches) (hs : IsOrdinary s) :
    Styled.ofMarkupWith table (Rendering.console.markAll stretches) =
      .ok { plain := s, spans := (places stretches).map Place.span } := by
  have hwords : ∀ kind word, .token kind word ∈ stretches → word ≠ [] :=
    fun kind word hmem => (hcut.token kind word hmem).ne_nil
  unfold Styled.ofMarkupWith
  split
  · have hrun := runWith_markAll table [] (by rwa [hcut.text]) hwords {} 0
    rw [List.nil_append, hcut.text] at hrun
    have hdrawn : Styled.Reading.CanBeDrawn
        ⟨s, [], ((places stretches).map Place.span).reverse⟩ := by
      refine ⟨by simp, fun span hspan => ?_⟩
      obtain ⟨p, -, rfl⟩ := List.mem_map.mp (List.mem_reverse.mp hspan)
      exact (isStyleName_styleName p.kind).isDrawable
    have hfinish := hdrawn.finish_eq
    have hsort := mergeSort_reverse (pairwise_span hwords)
    rw [Styled.Reading.allSpans, Styled.Reading.spansToEnd, List.map_nil, List.reverse_nil,
      List.nil_append, hsort] at hfinish
    rw [hrun]
    simpa [places, bind, Except.bind] using hfinish
  · -- without a bracket there is no mark
    rename_i hopen
    have hplain : ∀ kind word, .token kind word ∉ stretches := by
      intro kind word hmem
      refine hopen (List.mem_flatMap.mpr ⟨_, hmem, ?_⟩)
      simp [Rendering.mark, marks_console]
    have hmark : Rendering.console.markAll stretches = s := by
      rw [← hcut.text, Rendering.markAll]
      refine List.flatMap_congr fun stretch hmem => ?_
      cases stretch with
      | plain t => rfl
      | token kind word => exact absurd hmem (hplain kind word)
    have hplaces : places stretches = [] :=
      List.eq_nil_iff_forall_not_mem.mpr fun p hp => hplain _ _ (token_mem_of_mem_placesFrom hp)
    rw [hmark, hplaces, hs.replaceCodes_eq, Styled.ofText,
      Styled.visible_eq_self_iff.mpr hs.visible]
    rfl

/-! ### Panels -/

theorem panelWith_nil (d : Detail) : d.panelWith [] = d.panel := by
  simp only [Detail.panelWith, Detail.panel, Styled.ofMarkupWith_nil]

/-- **The panel of an entry with ordinary texts** shows them as they are: the name without spans,
the signature with a span on its function name and on each primitive type that stands whole behind
it, and the lines of the description with a span on each annotation. -/
theorem exists_panel_of_isOrdinary (e : Entry) :
    let lines := ((Text.lines e.description).map Text.trimEnd).filter fun line =>
      line ∉ (["/**", "*/"] : List Text)
    let shown := Text.join ['\n'] lines
    IsOrdinary e.name → IsOrdinary e.signature → IsOrdinary shown →
      ∃ (panel : Panel) (ps qs : List Place),
        (Rendering.console.detail e).panel = .ok panel ∧
        (∀ table, (Rendering.console.detail e).panelWith table = .ok panel) ∧
        panel.title = { plain := e.name } ∧
        Lists (SignatureToken e.signature) ps ∧
        panel.signature = { plain := e.signature, spans := ps.map Place.span } ∧
        Lists (DescriptionToken shown) qs ∧
        panel.description = { plain := shown, spans := qs.map Place.span } := by
  intro lines shown hname hsignature hshown
  have hlines : Rendering.shownLines e.description = lines := shownLines_eq e.description
  have hescape : lines.map Rendering.console.escape = lines := by
    refine (List.map_congr_left fun line hline => ?_).trans (List.map_id lines)
    exact (hshown.of_isInfix (Text.isInfix_join_of_mem hline)).escape_eq
  have hdescription : Rendering.console.description e.description =
      Rendering.console.markAll (docTags shown) := by
    rw [description_eq_markAll, hlines, hescape]
  have hpanel (table : EmojiTable) : (Rendering.console.detail e).panelWith table = .ok
      { title := { plain := e.name }
        signature :=
          { plain := e.signature, spans := (places (signature e.signature)).map Place.span }
        description := { plain := shown, spans := (places (docTags shown)).map Place.span } } := by
    have htitle := ofMarkupWith_markAll table (cut_plain e.name) hname
    have hmarkup : Rendering.console.signature e.signature =
        Rendering.console.markAll (signature e.signature) := by
      rw [Rendering.signature, Rendering.escape, hsignature.escape_eq]
    have htitle' : Rendering.console.escape e.name =
        Rendering.console.markAll [.plain e.name] := by
      simp [Rendering.escape, hname.escape_eq, Rendering.markAll, Rendering.mark]
    rw [Detail.panelWith, Rendering.detail]
    simp only [hdescription, hmarkup, htitle', htitle,
      ofMarkupWith_markAll table (cut_signature e.signature) hsignature,
      ofMarkupWith_markAll table (cut_docTags shown) hshown]
    rfl
  refine ⟨_, _, _, ?_, hpanel, rfl, lists_signature _, rfl, lists_docTags _, rfl⟩
  rw [← panelWith_nil, hpanel]

/-- A call with two primitive types and an annotation. -/
theorem exists_panel_of_call :
    let e : Entry := .build (some "A") (some "unit a") (some "real") "/**\n See @param a\n*/"
    IsOrdinary e.name ∧ IsOrdinary e.signature ∧ IsOrdinary " See @param a" ∧
      ∃ panel, (Rendering.console.detail e).panel = .ok panel ∧ panel.title = ⟨"A", [], []⟩ ∧
        panel.signature =
          ⟨"A(unit a): real", [], [⟨0, 1, "bold cyan"⟩, ⟨2, 6, "green"⟩, ⟨11, 15, "green"⟩]⟩ ∧
        panel.description = ⟨" See @param a", [], [⟨5, 11, "magenta"⟩]⟩ := by
  intro e
  have hname : IsOrdinary e.name := .of_count_le (by decide) (by decide) (by decide)
  have hsignature : IsOrdinary e.signature := .of_count_le (by decide) (by decide) (by decide)
  have hshown : IsOrdinary " See @param a".toList :=
    .of_count_le (by decide) (by decide) (by decide)
  obtain ⟨panel, ps, qs, hpanel, -, htitle, hps, hsig, hqs, hdesc⟩ :=
    exists_panel_of_isOrdinary e hname hsignature hshown
  obtain rfl := hps.unique (lists_signature _) fun _ => SignatureToken.ne_nil
  obtain rfl := hqs.unique (lists_docTags _) fun _ => DescriptionToken.ne_nil
  refine ⟨hname, hsignature, hshown, panel, hpanel, htitle, hsig.trans ?_, hdesc.trans ?_⟩
  · decide +kernel
  · decide +kernel

end Highlight

end NativeFinder
