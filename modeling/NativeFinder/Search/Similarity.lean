import NativeFinder.Number.Binary64
import NativeFinder.Text.Basic

/-!
# Similarity of texts

Two texts are compared by their **longest common subsequence**: the similarity of `s` and
`t` is twice its length over the sum of their lengths, a rational from `0` for no common
character to `1` for equal texts.

A query is compared with a field by `partialSimilarity`, so that it does not matter where in
the field a match stands: the shorter text is held against every window of its own length
in the longer one, also against those that hang over an end, and the best similarity counts.
`score` turns a similarity into points from `0` to `100`, rounding as double precision does.
-/

namespace NativeFinder

namespace Similarity

/-! ### The longest common subsequence -/

/-- One row of the table of common subsequences, from the row below it. Entry `j` of a row is
about the `j`-th suffix of the second text. -/
def lcsStep (c : Char) : Text → List Nat → List Nat
  | d :: t, up :: below =>
    let row := lcsStep c t below
    (if c = d then below.headD 0 + 1 else max up (row.headD 0)) :: row
  | _, _ => [0]

/-- The lengths of the longest common subsequences of `s` with every suffix of `t`, that of
`t` itself first. -/
def lcsRow : Text → Text → List Nat
  | [], t => List.replicate (t.length + 1) 0
  | c :: s, t => lcsStep c t (lcsRow s t)

/-- The length of the longest common subsequence. -/
def lcsLength (s t : Text) : Nat := (lcsRow s t).headD 0

/-- The similarity of two texts, as a whole. -/
def similarity (s t : Text) : Rat :=
  mkRat (2 * lcsLength s t) (s.length + t.length)

/-! ### Windows -/

/-- The windows of length `n` over a text: those that end at its first, second, … last
character, and those that hang over its end. The ones at the ends are shorter. -/
def windows (n : Nat) (t : Text) : List Text :=
  (List.range (n + t.length - 1)).map fun k => (t.take (k + 1)).drop (k + 1 - n)

/-- The greatest of some rationals, at least zero. -/
def best (xs : List Rat) : Rat := xs.foldl (fun a b => if a < b then b else a) 0

/-- The best similarity of `s` with a window of its length over `t`. -/
def windowSimilarity (s t : Text) : Rat := best ((windows s.length t).map (similarity s))

/-- The best similarity of the shorter text with a window over the longer one; of two texts
of one length either may be held against the other. Two empty texts are equal, and an empty
text has nothing in common with another one. -/
def partialSimilarity (s t : Text) : Rat :=
  if s.isEmpty && t.isEmpty then 1
  else if s.length < t.length then windowSimilarity s t
  else if t.length < s.length then windowSimilarity t s
  else best [windowSimilarity s t, windowSimilarity t s]

/-! ### Points -/

/-- The points of a share of dissimilar characters: one minus the share, times one hundred,
each step rounded. -/
def points (dissimilar : Rat) : Rat :=
  Binary64.nearest (Binary64.nearest (1 - dissimilar) * 100)

/-- The points of a query against a field. -/
def score (query field : Text) : Rat :=
  points (Binary64.nearest (1 - partialSimilarity query field))

end Similarity

end NativeFinder
