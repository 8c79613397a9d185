import NativeFinder.Text.Base64
import NativeFinder.Yaml.ScalarWriter

/-!
# Writing YAML

`Yaml.render` lays a value out over lines: every item of a list behind a dash, every member of
a table behind its key, in the order of the keys. A table lies two columns deeper than the
table around it, a list below its key does not; the first line of what lies in a list stands
behind the dash. Empty lists and tables are written in brackets and braces.

A key that is empty, long or of several lines stands behind a question mark, and its value
behind a colon on the next line. A scalar that is a whole document by itself is followed by
the mark of the end, unless it is quoted.

Bytes are written in base 64 behind a tag, a set as the table of its items behind another one,
and a pair as a list of two.
-/

namespace NativeFinder

namespace Yaml

/-! ### Order -/

/-- Whether a member comes before another one: by the texts of their keys. -/
def memberLe (a b : Key × Value) : Bool := a.1.toText.le b.1.toText

/-- The table that a set is written as. -/
def membersOfSet (items : List Key) : List (Key × Value) := items.map fun item => (item, .null)

/-- The members of a table in the order in which they are written: sorted, if all keys are
texts. -/
def sortMembers (members : List (Key × Value)) : List (Key × Value) :=
  let isText (member : Key × Value) : Bool := match member.1 with
    | .text _ => true
    | _ => false
  if members.all isText then members.mergeSort memberLe else members

mutual

/-- The value with the members of all its tables in the order in which they are written. -/
def sortValue : Value → Value
  | .list items => .list (sortItems items)
  | .set items => .set ((sortMembers (membersOfSet items)).map Prod.fst)
  | .pair first second => .pair (sortValue first) (sortValue second)
  | .table members => .table (sortMembers (sortTable members))
  | value => value

/-- The items of a list with their members in order. -/
def sortItems : List Value → List Value
  | [] => []
  | item :: items => sortValue item :: sortItems items

/-- The members of a table with the members of their values in order. -/
def sortTable : List (Key × Value) → List (Key × Value)
  | [] => []
  | (key, value) :: members => (key, sortValue value) :: sortTable members

end

/-! ### Scalars -/

/-- The written form of bytes: lines behind a tag and a bar. -/
def writeBytes (indent : Nat) (b : Bytes) : Text :=
  if b.isEmpty then "!!binary ''"
  else "!!binary |" ++ newline indent ++ Base64.encode (newline indent) b

/-- The written form of a value that takes no lines of its own: a scalar, or what is empty. -/
def writeScalar (indent column : Nat) : Value → Text
  | .null => "null"
  | .bool b => if b then "true" else "false"
  | .int n => Text.ofInt n
  | .float x => ofBinary64 x
  | .text s => writeText (.ofText false s) true indent column s
  | .bytes b => writeBytes indent b
  | .day d => d.toText
  | .moment m => m.toText
  | .list _ | .pair _ _ => "[]"
  | .set _ => "!!set \x7b\x7d"
  | .table _ => "\x7b\x7d"

/-- The written form of a key on one line. -/
def writeKey : Key → Text
  | .text s => writeText (.ofText true s) false 0 0 s
  | key => writeScalar 0 0 key.toValue

/-- The written form of a key behind a question mark, from a column on. -/
def writeKeyAt (column : Nat) : Key → Text
  | .pair first second =>
    "- " ++ writeKeyAt (column + 2) first ++ newline column ++
      "- " ++ writeKeyAt (column + 2) second
  | key => writeScalar column column key.toValue

/-- The longest text that may stand as a key before a colon. -/
def keyWidth : Nat := 122

/-- Whether a key may stand before a colon. -/
def isSimpleKey : Key → Bool
  | .text s => !s.isEmpty && s.length ≤ keyWidth && !s.any isBreak
  | .bytes _ | .pair _ _ => false
  | _ => true

/-! ### Values -/

/-- Where a value is written. -/
structure Placement where
  /-- Whether lists and tables begin on a line of their own. -/
  ownLine : Bool
  /-- The indentation of the items of a list. -/
  listIndent : Nat
  /-- The indentation of the members of a table, and of the further lines of a scalar. -/
  indent : Nat
  /-- The column of a scalar. -/
  column : Nat
deriving Inhabited

namespace Placement

/-- Behind a mark in the column before the last one. -/
def behindMark (column : Nat) : Placement :=
  { ownLine := false, listIndent := column, indent := column, column }

/-- Behind a key of some length in a table with an indentation, and its colon. -/
def behindKey (indent length : Nat) : Placement :=
  { ownLine := true, listIndent := indent, indent := indent + 2, column := indent + length + 2 }

/-- What stands before a list or table. -/
def opening (p : Placement) (indent : Nat) : Text := if p.ownLine then newline indent else []

/-- What stands before a scalar. -/
def gap (p : Placement) : Text := if p.ownLine then [' '] else []

end Placement

/-- A key with what follows it, when its value is written. -/
def writeMember (indent : Nat) (key : Key) (value : Placement → Text) : Text :=
  if isSimpleKey key then
    writeKey key ++ ":" ++ value (.behindKey indent (writeKey key).length)
  else
    "? " ++ writeKeyAt (indent + 2) key ++ newline indent ++ ": " ++
      value (.behindMark (indent + 2))

/-- The members of the table that a set is written as. -/
def writeSet (indent : Nat) (items : List Key) : Text :=
  Text.join (newline indent)
    (items.map fun item => writeMember indent item fun p => p.gap ++ "null")

mutual

/-- The written form of a value at its place. -/
def writeAt (p : Placement) : Value → Text
  | .list (item :: items) => p.opening p.listIndent ++ writeItems p.listIndent (item :: items)
  | .pair first second =>
    p.opening p.listIndent ++ "- " ++ writeAt (.behindMark (p.listIndent + 2)) first ++
      newline p.listIndent ++ "- " ++ writeAt (.behindMark (p.listIndent + 2)) second
  | .set (item :: items) =>
    p.gap ++ "!!set" ++ newline p.indent ++ writeSet p.indent (item :: items)
  | .table (member :: members) => p.opening p.indent ++ writeMembers p.indent (member :: members)
  | value => p.gap ++ writeScalar p.indent p.column value

/-- The items of a list, each behind its dash. -/
def writeItems (indent : Nat) : List Value → Text
  | [] => []
  | [item] => "- " ++ writeAt (.behindMark (indent + 2)) item
  | item :: items =>
    "- " ++ writeAt (.behindMark (indent + 2)) item ++ newline indent ++ writeItems indent items

/-- The members of a table, each behind its key. -/
def writeMembers (indent : Nat) : List (Key × Value) → Text
  | [] => []
  | [(key, value)] => writeMember indent key fun p => writeAt p value
  | (key, value) :: members =>
    (writeMember indent key fun p => writeAt p value) ++ newline indent ++
      writeMembers indent members

end

/-- What follows a value that is a whole document. -/
def documentEnd : Value → Text
  | .list _ | .pair _ _ | .set _ | .table _ | .bytes _ => "\n"
  | .text s => if ScalarStyle.ofText false s = .plain then "\n...\n" else "\n"
  | _ => "\n...\n"

/-- The place of a value that is a whole document. -/
def Placement.whole : Placement := { ownLine := false, listIndent := 0, indent := 0, column := 0 }

/-- The written form of a value, with a line break at the end. The further lines of a text that
is a whole document are indented. -/
def render (v : Value) : Text :=
  (match v with
    | .text _ | .bytes _ => writeScalar 2 0 v
    | v => writeAt .whole (sortValue v)) ++ documentEnd v

end Yaml

end NativeFinder
