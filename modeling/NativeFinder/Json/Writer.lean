import NativeFinder.Value

/-!
# Writing JSON

`Json.render` lays a value out over several lines: every item and every member on a line of
its own, two spaces deeper than the bracket or brace around it; an empty list or table stays
on its line. The text is ASCII: other characters are written as units of four hexadecimal
digits, beyond the first plane a pair of units. Members keep their order, and a pair is written
as a list of two.

There is no form for bytes, days, moments and sets, nor for keys of these kinds or pairs as keys;
`Json.foreign?` finds them.
-/

namespace NativeFinder

namespace Json

/-! ### Texts -/

/-- A unit as an escape. -/
def unitEscape (n : Nat) : Text := "\\u" ++ Text.padHex 4 n

/-- The written form of a character inside a text. -/
def escapeChar (c : Char) : Text :=
  let n := c.toNat
  if c = '"' then "\\\""
  else if c = '\\' then "\\\\"
  else if c = '\n' then "\\n"
  else if c = '\r' then "\\r"
  else if c = '\t' then "\\t"
  else if c = '\x08' then "\\b"
  else if c = '\x0c' then "\\f"
  else if 0x20 ≤ n && n < 0x7F then [c]
  else if n < 0x10000 then unitEscape n
  else
    let m := n - 0x10000
    unitEscape (0xD800 + m / 0x400) ++ unitEscape (0xDC00 + m % 0x400)

/-- The written form of a text, between quotes. -/
def escape (s : Text) : Text := '"' :: s.flatMap escapeChar ++ ['"']

/-! ### Values -/

/-- The written form of a number of double precision. -/
def ofBinary64 : Binary64 → Text
  | .nan => "NaN"
  | .infinite negative => if negative then "-Infinity" else "Infinity"
  | x => x.toText

/-- The text under which a key is written. -/
def keyText : Key → Text
  | .text s => s
  | .int n => Text.ofInt n
  | .float x => ofBinary64 x
  | .bool b => if b then "true" else "false"
  | .null => "null"
  | key => key.toText

/-- A line break, and spaces for a nesting of `depth` levels. -/
def newline (depth : Nat) : Text := '\n' :: Text.spaces (2 * depth)

mutual

/-- The written form of a value at a level of nesting; nothing if there is no form for it. -/
def renderAt (depth : Nat) : Value → Text
  | .null => "null"
  | .bool b => if b then "true" else "false"
  | .int n => Text.ofInt n
  | .float x => ofBinary64 x
  | .text s => escape s
  | .list [] => "[]"
  | .list (item :: items) =>
    '[' :: renderItems (depth + 1) (item :: items) ++ newline depth ++ "]"
  | .pair first second =>
    '[' :: newline (depth + 1) ++ renderAt (depth + 1) first ++ "," ++
      newline (depth + 1) ++ renderAt (depth + 1) second ++ newline depth ++ "]"
  | .table [] => "\x7b\x7d"
  | .table (member :: members) =>
    '\x7b' :: renderMembers (depth + 1) (member :: members) ++ newline depth ++ "\x7d"
  | .bytes _ | .day _ | .moment _ | .set _ => []

/-- The items of a list, each on its own line, with commas between them. -/
def renderItems (depth : Nat) : List Value → Text
  | [] => []
  | [item] => newline depth ++ renderAt depth item
  | item :: items => newline depth ++ renderAt depth item ++ "," ++ renderItems depth items

/-- The members of a table, each on its own line, with commas between them. -/
def renderMembers (depth : Nat) : List (Key × Value) → Text
  | [] => []
  | [(key, value)] => newline depth ++ escape (keyText key) ++ ": " ++ renderAt depth value
  | (key, value) :: members =>
    newline depth ++ escape (keyText key) ++ ": " ++ renderAt depth value ++ "," ++
      renderMembers depth members

end

/-- The written form of a value, without a line break at the end. -/
def render (v : Value) : Text := renderAt 0 v

/-! ### Values without a form -/

/-- Why a value cannot be written. -/
inductive WriteError where
  | key (kind : Text)
  | value (kind : Text)
deriving DecidableEq, Inhabited

/-- The name of a kind without that of its module. -/
def shortName (kind : Text) : Text := (Text.splitOn '.' kind).getLast?.getD []

/-- The wording of the errors. -/
def WriteError.message : WriteError → Text
  | key kind => "keys must be str, int, float, bool or None, not " ++ shortName kind
  | value kind => "Object of type " ++ shortName kind ++ " is not JSON serializable"

/-- What is wrong with a key. -/
def foreignKey? (key : Key) : Option WriteError :=
  match key with
  | .text _ | .int _ | .float _ | .bool _ | .null => none
  | .bytes _ | .day _ | .moment _ | .pair _ _ => some (.key key.kindName)

mutual

/-- The first part of a value that there is no form for. -/
def foreign? : Value → Option WriteError
  | .null | .bool _ | .int _ | .float _ | .text _ => none
  | .bytes b => some (.value (Value.bytes b).kindName)
  | .day d => some (.value (Value.day d).kindName)
  | .moment m => some (.value (Value.moment m).kindName)
  | .set items => some (.value (Value.set items).kindName)
  | .list items => foreignItem? items
  | .pair first second => (foreign? first).or (foreign? second)
  | .table members => foreignMember? members

/-- The first part of the items of a list that there is no form for. -/
def foreignItem? : List Value → Option WriteError
  | [] => none
  | item :: items => (foreign? item).or (foreignItem? items)

/-- The first part of the members of a table that there is no form for. -/
def foreignMember? : List (Key × Value) → Option WriteError
  | [] => none
  | (key, value) :: members =>
    ((foreignKey? key).or (foreign? value)).or (foreignMember? members)

end

end Json

end NativeFinder
