import NativeFinder.Detail.Rendering
import NativeFinder.Proofs.Text.Cuts

/-!
# What highlighting leaves of a text

Highlighting cuts a text into stretches and marks some of them, the tokens. Two things are needed
of a cut by those who put marks around the tokens: the stretches make up the text, so that nothing
is lost between two marks, and a token consists of **token characters**, so that no bracket and no
backslash stands inside its marks. `Cut` says both; `cut_signature` and `cut_docTags` say it of the
two kinds of highlighting.
-/

namespace NativeFinder

namespace Highlight

/-- A character of a token: a word character, or the at sign of an annotation. -/
def isTokenChar (c : Char) : Bool := c == '@' || Character.isWord c

/-- Stretches that a text has been **cut** into. -/
structure Cut (s : Text) (stretches : List Stretch) : Prop where
  text : stretches.flatMap Stretch.text = s
  token : ∀ kind word, .token kind word ∈ stretches → Text.IsRun isTokenChar word

variable {s t : Text} {stretches later : List Stretch}

theorem cut_nil : Cut [] [] := ⟨rfl, by simp⟩

theorem Cut.append (hs : Cut s stretches) (ht : Cut t later) :
    Cut (s ++ t) (stretches ++ later) := by
  refine ⟨by rw [List.flatMap_append, hs.text, ht.text], fun kind word hmem => ?_⟩
  exact (List.mem_append.mp hmem).elim (hs.token kind word) (ht.token kind word)

theorem cut_plain (s : Text) : Cut s [.plain s] := ⟨by simp [Stretch.text], by simp⟩

theorem cut_token {word : Text} (kind : TokenKind) (h : Text.IsRun isTokenChar word) :
    Cut word [.token kind word] := by
  refine ⟨by simp [Stretch.text], fun kind' word' hmem => ?_⟩
  obtain ⟨-, rfl⟩ : kind' = kind ∧ word' = word := by simpa using hmem
  exact h

theorem isRun_isTokenChar_of_isWord {word : Text} (h : Text.IsWord word) :
    Text.IsRun isTokenChar word :=
  ⟨h.ne_nil, fun c hc => by simp [isTokenChar, h.all c hc]⟩

theorem isRun_isTokenChar_docTag {word : Text} (h : Text.IsWord word) :
    Text.IsRun isTokenChar ('@' :: word) :=
  ⟨by simp, List.forall_mem_cons.mpr ⟨rfl, (isRun_isTokenChar_of_isWord h).all⟩⟩

/-- A text is cut into its words and the characters between them. -/
theorem cut_primitives (s : Text) : Cut s (primitives s) := by
  fun_induction primitives s with
  | case1 => exact cut_nil
  | case2 c t word rest hword _ ih =>
    obtain ⟨heq, hrun, -⟩ := Text.takeRun?_eq_some_iff.mp hword
    have hfirst : Cut word
        [if word ∈ primitiveTypes then .token .primitive word else .plain word] := by
      split
      · exact cut_token .primitive (isRun_isTokenChar_of_isWord hrun)
      · exact cut_plain word
    rw [heq]
    exact hfirst.append ih
  | case3 c t _ ih => exact (cut_plain [c]).append ih

/-- A line is cut into its annotations and the characters between them. -/
theorem cut_docTags (s : Text) : Cut s (docTags s) := by
  fun_induction docTags s with
  | case1 => exact cut_nil
  | case2 t word rest hword _ ih =>
    obtain ⟨rfl, hrun, -⟩ := Text.takeRun?_eq_some_iff.mp hword
    exact (cut_token .docTag (isRun_isTokenChar_docTag hrun)).append ih
  | case3 t _ ih => exact (cut_plain ['@']).append ih
  | case4 c t _ ih => exact (cut_plain [c]).append ih

/-- A signature is cut into its name and the words and characters behind it. -/
theorem cut_signature (s : Text) : Cut s (signature s) := by
  unfold signature splitFunction
  split
  · rename_i hsplit
    split at hsplit
    · rename_i word rest hword
      obtain ⟨rfl, rfl⟩ := Prod.mk.inj hsplit
      obtain ⟨rfl, hrun, -⟩ := Text.takeRun?_eq_some_iff.mp hword
      exact (cut_token .function (isRun_isTokenChar_of_isWord hrun)).append (cut_primitives _)
    · obtain ⟨rfl, rfl⟩ := Prod.mk.inj hsplit
      exact cut_primitives s

/-! ### Descriptions -/

/-- The lines that are shown, without the test that reads them. -/
theorem shownLines_eq (s : Text) : Rendering.shownLines s =
    ((Text.lines s).map Text.trimEnd).filter fun line => line ∉ (["/**", "*/"] : List Text) := by
  refine List.filter_congr fun line _ => ?_
  rw [Bool.eq_iff_iff]
  simp

/-- The stretches of several lines, with line feeds between. -/
def joined : List (List Stretch) → List Stretch
  | [] => []
  | [line] => line
  | line :: lines => line ++ .plain ['\n'] :: joined lines

/-- **The stretches of a description**, which is escaped and cut line by line. -/
def description (r : Rendering) (s : Text) : List Stretch :=
  joined ((Rendering.shownLines s).map fun line => docTags (r.escape line))

theorem markAll_append (r : Rendering) (a b : List Stretch) :
    r.markAll (a ++ b) = r.markAll a ++ r.markAll b := List.flatMap_append

theorem markAll_joined (r : Rendering) (lines : List (List Stretch)) :
    r.markAll (joined lines) = Text.join ['\n'] (lines.map r.markAll) := by
  fun_induction joined lines with
  | case1 => rfl
  | case2 line => rfl
  | case3 line lines hne ih =>
    have hmark : r.markAll (.plain ['\n'] :: joined lines) = '\n' :: r.markAll (joined lines) := rfl
    obtain ⟨first, rest, rfl⟩ := List.exists_cons_of_ne_nil hne
    rw [markAll_append, hmark, ih]
    simp [Text.join]

/-- A description is the marked text of its stretches. -/
theorem markAll_description (r : Rendering) (s : Text) :
    r.markAll (description r s) = r.description s := by
  rw [description, markAll_joined, List.map_map]
  rfl

theorem cut_joined {α : Type} {f : α → Text} {cut : α → List Stretch}
    (h : ∀ x, Cut (f x) (cut x)) (xs : List α) :
    Cut (Text.join ['\n'] (xs.map f)) (joined (xs.map cut)) := by
  induction xs with
  | nil => exact cut_nil
  | cons x xs ih =>
    cases xs with
    | nil => exact h x
    | cons y ys =>
      have hfeed : Cut ('\n' :: Text.join ['\n'] ((y :: ys).map f))
          (.plain ['\n'] :: joined ((y :: ys).map cut)) := (cut_plain ['\n']).append ih
      simpa [Text.join, joined] using (h x).append hfeed

theorem cut_description (r : Rendering) (s : Text) :
    Cut (Text.join ['\n'] ((Rendering.shownLines s).map r.escape)) (description r s) :=
  cut_joined (fun line => cut_docTags (r.escape line)) _

end Highlight

end NativeFinder
