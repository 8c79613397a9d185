import NativeFinder.Detail.Panel
import NativeFinder.Layout.Wrap

/-!
# The layout of panels

A panel is as wide as the console. Its texts are folded to the width inside the frame, one
space from either side; the title stands in the middle of the upper border, on one line, and
is cut if it is too long.
-/

namespace NativeFinder

namespace Panel

/-- The title in the border: on one line, with a space on either side. -/
def titleText (title : Text) : Text :=
  ' ' :: Text.expandTabs (title.map fun c => if c = '\n' then ' ' else c) ++ [' ']

/-- The upper border of a panel. -/
def topLine (width : Nat) (title : Text) : Text :=
  if title.isEmpty || width ≤ 4 then '╭' :: List.replicate (width - 2) '─' ++ ['╮']
  else
    let inner := width - 4
    "╭─" ++ Text.align .centre '─' inner (Text.cutCells inner (titleText title)) ++ "─╮"

/-- The lines of a text in the frame. There are none where the frame leaves no room. -/
def bodyLines (width : Nat) (s : Text) : List Text :=
  if width ≤ 4 then []
  else (Text.wrap true .left .fold (width - 4) s).map fun line => "│ " ++ line ++ " │"

/-- The text of a panel on a console of the given width, each line with its line feed. -/
def layout (p : Panel) (width : Nat) : Text :=
  let lines := topLine width p.title.plain ::
    p.body.flatMap (fun t => bodyLines width t.plain) ++
    ['╰' :: List.replicate (width - 2) '─' ++ ['╯']]
  lines.flatMap fun line => line ++ ['\n']

end Panel

end NativeFinder
