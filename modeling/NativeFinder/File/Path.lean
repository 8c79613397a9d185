import NativeFinder.Text.Basic

/-!
# Paths

A path names a file by the parts between its slashes. Empty parts and single dots say nothing
and are left out when a path is read, so that `./a//b/` is the path `a/b`. Two dots are kept:
where they lead depends on the files that there are.
-/

namespace NativeFinder

/-- A path in its short form. -/
structure FilePath where
  /-- Whether the path starts at the root of all files. -/
  isAbsolute : Bool
  parts : List Text
deriving DecidableEq, Inhabited

namespace FilePath

/-- The part that leads to the folder above. -/
def upward : Text := ['.', '.']

/-- Whether a part names something. -/
def isMeaningful (part : Text) : Bool := !part.isEmpty && part != ['.']

/-- The path that a text names. -/
def ofText (s : Text) : FilePath :=
  { isAbsolute := s.head? == some '/', parts := (s.splitOn '/').filter isMeaningful }

/-- A path without any part is written as a dot. -/
def toText (p : FilePath) : Text :=
  match p.isAbsolute, p.parts with
  | true, parts => '/' :: Text.join ['/'] parts
  | false, [] => ['.']
  | false, parts => Text.join ['/'] parts

/-- The path of the folder that holds what a path names. -/
def parent (p : FilePath) : FilePath := { p with parts := p.parts.dropLast }

/-- The last part of a path. -/
def name (p : FilePath) : Text := (p.parts.getLast?).getD []

/-- The last dot of a name and what follows it. A name has a suffix if something stands before
the dot and something follows it. -/
def suffixOf (name : Text) : Text :=
  let ending := (name.reverse.takeWhile (· != '.')).reverse
  if ending.isEmpty || name.length ≤ ending.length + 1 then [] else '.' :: ending

/-- The suffix of the last part of a path. -/
def suffix (p : FilePath) : Text := suffixOf p.name

end FilePath

end NativeFinder
