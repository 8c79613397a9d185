import NativeFinder.Detail.Panel
import NativeFinder.Proofs.Detail.Clear

/-!
# Which details can be shown in a panel

The texts of a panel are escaped before their tokens are marked. So the only live tags of a marked
text are its marks (`liveTags_markAll`), and they close exactly if the text is clear: behind an odd
number of backslashes the opening mark of a token is read as text, and its closing mark has nothing
to close.

`exists_ofMarkup_signature_iff` says that a signature can be read exactly if it is clear, and
`exists_ofMarkup_description_iff` says the same of a description none of whose lines leaves a
bracket open: such a bracket is not escaped, and a line below can close it. `exists_panel_iff`
puts these together, since names are never in the way.
-/

namespace NativeFinder

open Markup (oddSlashes liveTags leavesOpen)

namespace Highlight

variable {s : Text} {stretches : List Stretch} {odd : Bool}

/-! ### The marks of the console -/

/-- The style of the tokens of a kind on the console. -/
def styleName : TokenKind → Text
  | .function => "bold cyan"
  | .primitive => "green"
  | .docTag => "magenta"

/-- The live tags that marks bring: an opening mark is dead behind an odd number of backslashes. -/
def markTags (odd : Bool) : List Stretch → List Text
  | [] => []
  | .plain s :: rest => markTags (oddSlashes odd s) rest
  | .token kind _ :: rest =>
    (if odd then [] else [styleName kind]) ++ ('/' :: styleName kind) :: markTags false rest

theorem marks_console (kind : TokenKind) : Rendering.console.marks kind =
    ('[' :: (styleName kind ++ "]"), '[' :: '/' :: (styleName kind ++ "]")) := by
  cases kind <;> rfl

theorem isBody_styleName (kind : TokenKind) :
    Markup.IsBody (styleName kind) ∧ Markup.IsBody ('/' :: styleName kind) := by
  cases kind <;> exact ⟨⟨⟨_, rfl, by decide⟩, by decide⟩, ⟨⟨_, rfl, by decide⟩, by decide⟩⟩

theorem ne_of_isTokenChar {c : Char} (h : isTokenChar c = true) : c ≠ '\\' ∧ c ≠ '[' := by
  constructor
  all_goals
    rintro rfl
    revert h
    decide

/-- What the marked text begins with, up to a bracket, the text begins with too. -/
theorem isPrefix_of_isPrefix_markAll (hs : '[' ∉ s)
    (h : s <+: Rendering.console.markAll stretches) : s <+: stretches.flatMap Stretch.text := by
  induction stretches generalizing s with
  | nil => exact h
  | cons stretch stretches ih =>
    cases stretch with
    | plain t =>
      have h' : s <+: t ++ Rendering.console.markAll stretches := h
      rw [List.flatMap_cons, Stretch.text]
      rcases List.prefix_or_prefix_of_prefix h' (List.prefix_append t _) with hpre | ⟨u, rfl⟩
      · exact hpre.trans (List.prefix_append t _)
      · have hu : '[' ∉ u := fun hmem => hs (List.mem_append_right t hmem)
        exact (List.prefix_append_right_inj t).mpr (ih hu ((List.prefix_append_right_inj t).mp h'))
    | token kind word =>
      -- the mark begins with a bracket
      cases s with
      | nil => exact List.nil_prefix
      | cons c s =>
        have hmark : Rendering.console.markAll (.token kind word :: stretches) =
            '[' :: (styleName kind ++ "]" ++ word ++ (Rendering.console.marks kind).2 ++
              Rendering.console.markAll stretches) := by
          simp [Rendering.markAll, Rendering.mark, marks_console]
        rw [hmark] at h
        obtain rfl := (List.cons_prefix_cons.mp h).1
        exact absurd (List.mem_cons_self ..) hs

/-- A bracket that begins no tag begins none when the tokens are marked. -/
theorem tag?_open_markAll (h : Markup.tag? ('[' :: stretches.flatMap Stretch.text) = none) :
    Markup.tag? ('[' :: Rendering.console.markAll stretches) = none := by
  rw [Option.eq_none_iff_forall_ne_some] at h ⊢
  intro found hfound
  obtain ⟨body, rest, -, heq, hbody⟩ := Markup.tag?_open_eq_some_iff.mp hfound
  have hpre : body ++ [']'] <+: Rendering.console.markAll stretches := ⟨rest, by simp [heq]⟩
  have hfree : '[' ∉ body ++ [']'] := by
    simpa using fun hmem => (hbody.bracketless _ hmem).1 rfl
  obtain ⟨rest', hrest'⟩ := isPrefix_of_isPrefix_markAll hfree hpre
  refine h (0, body, rest') (Markup.tag?_open_eq_some_iff.mpr ⟨body, rest', rfl, ?_, hbody⟩)
  rw [← hrest', List.append_assoc]
  rfl

/-- Without live tags of its own, a plain stretch brings none when the tokens behind it are
marked. -/
theorem liveTags_plain_markAll (s : Text)
    (h : liveTags odd (s ++ stretches.flatMap Stretch.text) = []) :
    liveTags odd (s ++ Rendering.console.markAll stretches) =
        liveTags (oddSlashes odd s) (Rendering.console.markAll stretches) ∧
      liveTags (oddSlashes odd s) (stretches.flatMap Stretch.text) = [] := by
  induction s generalizing odd with
  | nil => exact ⟨rfl, h⟩
  | cons c s ih =>
    by_cases hslash : c = '\\'
    · subst hslash
      rw [List.cons_append, Markup.liveTags_slash] at h ⊢
      simpa using ih h
    · have hodd : oddSlashes odd (c :: s) = oddSlashes false s := by
        simp [beq_eq_false_iff_ne.mpr hslash]
      rw [hodd]
      by_cases hopen : c = '['
      · subst hopen
        have hdead : odd = true ∨
            Markup.tag? ('[' :: (s ++ stretches.flatMap Stretch.text)) = none := by
          cases odd with
          | true => exact .inl rfl
          | false => simp_all [liveTags]
        have hdead' : odd = true ∨
            Markup.tag? ('[' :: (s ++ Rendering.console.markAll stretches)) = none :=
          hdead.imp_right fun hnone => @tag?_open_markAll (.plain s :: stretches) hnone
        rw [List.cons_append, Markup.liveTags_open_of_dead hdead] at h
        rw [List.cons_append, Markup.liveTags_open_of_dead hdead']
        exact ih h
      · rw [List.cons_append, Markup.liveTags_of_ne hslash hopen] at h ⊢
        exact ih h

/-- **The live tags of a marked text** are those of its marks, if the text itself has none. -/
theorem liveTags_markAll {s : Text} (hcut : Cut s stretches) (hs : liveTags odd s = []) :
    liveTags odd (Rendering.console.markAll stretches) = markTags odd stretches := by
  induction stretches generalizing s odd with
  | nil => rfl
  | cons stretch stretches ih =>
    obtain ⟨rfl, htoken⟩ := hcut
    have hrest : Cut (stretches.flatMap Stretch.text) stretches :=
      ⟨rfl, fun kind word hmem => htoken kind word (List.mem_cons_of_mem _ hmem)⟩
    cases stretch with
    | plain t =>
      obtain ⟨hmark, hnil⟩ := liveTags_plain_markAll t hs
      exact hmark.trans (ih hrest hnil)
    | token kind word =>
      have hword := htoken kind word (List.mem_cons_self ..)
      have hplain (odd : Bool) (u : Text) : liveTags odd (word ++ u) = liveTags false u :=
        Markup.liveTags_append_of_plain (fun c hc => ne_of_isTokenChar (hword.all c hc))
          hword.ne_nil odd
      have hnil : liveTags false (stretches.flatMap Stretch.text) = [] :=
        (hplain odd _).symm.trans hs
      have hmark : Rendering.console.markAll (.token kind word :: stretches) =
          '[' :: (styleName kind ++ ']' :: (word ++ '[' :: ('/' :: styleName kind ++ ']' ::
            Rendering.console.markAll stretches))) := by
        simp [Rendering.markAll, Rendering.mark, marks_console]
      obtain ⟨hopening, hclosing⟩ := isBody_styleName kind
      rw [hmark, Markup.liveTags_tag hopening, hplain, Markup.liveTags_tag hclosing,
        ih hrest hnil, markTags]
      rfl

/-! ### Marks that close -/

theorem isStyleName_styleName (kind : TokenKind) : Styled.IsStyleName (styleName kind) where
  opening := (isBody_styleName kind).1
  closing := (isBody_styleName kind).2
  split := by cases kind <;> decide
  split_closing := by cases kind <;> decide
  canonical := by cases kind <;> decide +kernel
  trimmed := by cases kind <;> decide
  head := by cases kind <;> decide

/-- The spans of marks can be drawn. -/
theorem opensDrawable_of_mem_markTags {body : Text} (h : body ∈ markTags odd stretches) :
    Styled.opensDrawable body = true := by
  induction stretches generalizing odd with
  | nil => cases h
  | cons stretch stretches ih =>
    cases stretch with
    | plain s => exact ih h
    | token kind word =>
      have hname := isStyleName_styleName kind
      rcases List.mem_append.mp h with h | h
      · obtain rfl : body = styleName kind := by cases odd <;> simp_all
        exact hname.opensDrawable_opening
      · rcases List.mem_cons.mp h with rfl | h
        · exact hname.opensDrawable_closing
        · exact ih h

/-- **The marks of a text close** exactly if the text is clear. -/
theorem closes_markTags_iff (odd : Bool) (stretches : List Stretch) :
    Styled.Closes [] (markTags odd stretches) ↔ isClear odd stretches = true := by
  induction stretches generalizing odd with
  | nil => simp [markTags, isClear, Styled.Closes]
  | cons stretch stretches ih =>
    cases stretch with
    | plain s => exact ih _
    | token kind word =>
      have hname := isStyleName_styleName kind
      cases odd with
      | true => simp [markTags, isClear, Styled.Closes, hname.afterTag?_nil_closing]
      | false =>
        rw [isClear, Bool.not_false, Bool.true_and, ← ih false]
        simp [markTags, Styled.Closes, hname.afterTag?_opening, hname.afterTag?_closing]

/-- A cut text without live tags can be read with its tokens marked exactly if it is clear. -/
theorem exists_ofMarkup_markAll_iff (hcut : Cut s stretches) (hs : liveTags false s = []) :
    (∃ styled, Styled.ofMarkup (Rendering.console.markAll stretches) = .ok styled) ↔
      isClear false stretches = true := by
  have htags := liveTags_markAll hcut hs
  rw [Styled.exists_ofMarkup_iff fun body hbody => opensDrawable_of_mem_markTags (htags ▸ hbody),
    htags, closes_markTags_iff]

/-! ### The texts of a panel -/

/-- **A signature can be read** exactly if it is clear. -/
theorem exists_ofMarkup_signature_iff (s : Text) :
    (∃ styled, Styled.ofMarkup (Rendering.console.signature s) = .ok styled) ↔
      isClear false (signature s) = true := by
  rw [← isClear_signature_escape]
  exact exists_ofMarkup_markAll_iff (cut_signature _) (Markup.liveTags_escape s)

/-- Lines are clear together exactly if each is: a line feed is no backslash. -/
theorem isClear_joined (lines : List (List Stretch)) :
    isClear false (joined lines) = lines.all (isClear false) := by
  have happend (odd : Bool) (line rest : List Stretch) :
      isClear odd (line ++ .plain ['\n'] :: rest) = (isClear odd line && isClear false rest) := by
    induction line generalizing odd with
    | nil => simp [isClear]
    | cons stretch line ih =>
      cases stretch with
      | plain s => exact ih _
      | token kind word => simp only [List.cons_append, isClear, ih, Bool.and_assoc]
  fun_induction joined lines with
  | case1 => rfl
  | case2 line => simp
  | case3 line lines hne ih => rw [happend, ih, List.all_cons]

theorem liveTags_join_escape {lines : List Text}
    (h : ∀ line ∈ lines.dropLast, leavesOpen line = false) :
    liveTags false (Text.join ['\n'] (lines.map Markup.escape)) = [] := by
  induction lines with
  | nil => rfl
  | cons line lines ih =>
    cases lines with
    | nil => exact Markup.liveTags_escape line
    | cons next lines =>
      obtain ⟨hline, hrest⟩ := List.forall_mem_cons.mp h
      have hfeed := Markup.liveTags_escape_append_lineFeed hline
      simpa [Text.join, hfeed] using ih hrest

/-- **A description can be read** exactly if its lines are clear, provided that none of them but the
last leaves a bracket open. -/
theorem exists_ofMarkup_description_iff
    (h : ∀ line ∈ (Rendering.shownLines s).dropLast, leavesOpen line = false) :
    (∃ styled, Styled.ofMarkup (Rendering.console.description s) = .ok styled) ↔
      ∀ line ∈ Rendering.shownLines s, isClear false (docTags line) = true := by
  rw [← markAll_description,
    exists_ofMarkup_markAll_iff (cut_description .console s) (liveTags_join_escape h), description,
    isClear_joined, List.all_map, List.all_eq_true]
  simp [Rendering.escape, isClear_docTags_escape]

/-- A bracket that one line leaves open, and the next one closes, makes a tag of what is between,
though both lines are clear. -/
example : (Rendering.shownLines "[/a\n]".toList).all (fun line => isClear false (docTags line)) ∧
    (Styled.ofMarkup (Rendering.console.description "[/a\n]".toList)).toOption.isNone := by
  decide +kernel

end Highlight

/-! ### Panels -/

/-- Details have a panel exactly if their texts can be read. -/
theorem Detail.exists_panel_iff (d : Detail) : (∃ panel, d.panel = .ok panel) ↔
    (∃ styled, Styled.ofMarkup d.signature = .ok styled) ∧
      (∃ styled, Styled.ofMarkup d.description = .ok styled) ∧
        ∃ styled, Styled.ofMarkup d.title = .ok styled := by
  unfold Detail.panel
  cases Styled.ofMarkup d.signature <;> cases Styled.ofMarkup d.description <;>
    cases Styled.ofMarkup d.title <;> simp [bind, Except.bind]

/-- **Whether an entry has a panel**: its signature and the lines of its description have to be
clear. -/
theorem Entry.exists_panel_iff (e : Entry)
    (h : ∀ line ∈ (Rendering.shownLines e.description).dropLast, leavesOpen line = false) :
    (∃ panel, (Rendering.console.detail e).panel = .ok panel) ↔
      Highlight.isClear false (Highlight.signature e.signature) = true ∧
        ∀ line ∈ Rendering.shownLines e.description,
          Highlight.isClear false (Highlight.docTags line) = true := by
  have htitle : ∃ styled, Styled.ofMarkup (Markup.escape e.name) = .ok styled := by
    have htags := Markup.liveTags_escape e.name
    rw [Styled.exists_ofMarkup_iff (by simp [htags]), htags]
    rfl
  rw [Detail.exists_panel_iff, ← Highlight.exists_ofMarkup_signature_iff,
    ← Highlight.exists_ofMarkup_description_iff h]
  exact ⟨fun ⟨hs, hd, _⟩ => ⟨hs, hd⟩, fun ⟨hs, hd⟩ => ⟨hs, hd, htitle⟩⟩

end NativeFinder
