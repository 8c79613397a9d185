import NativeFinder.Moment
import NativeFinder.Number.Decimal
import NativeFinder.Text.Quoted
import NativeFinder.Text.Utf8

/-!
# Values of settings

Settings files are free in form: a setting may be a number, a text, a list, a table or
nothing at all, and in one of the formats also bytes, a day, a moment, a set or a pair.
`Value` is such a value. Integers and numbers of double precision are different values, and
so are `true` and `1`, since they are written differently.

A **table** keeps its members in the order in which their keys first came. Putting a key that
is already there replaces its value and keeps its place. Most keys are texts; lists, sets and
tables are none. Two keys are the same if they have the same **meaning**: the number `1`, the
number `1.0` and `true` are one and the same key, and so are two moments at the same instant.
-/

namespace NativeFinder

/-- A key of a table. -/
inductive Key where
  | text (s : Text)
  | int (n : Int)
  | float (x : Binary64)
  | bool (b : Bool)
  | null
  | bytes (b : Bytes)
  | day (d : Day)
  | moment (m : Moment)
  | pair (first second : Key)
deriving DecidableEq, Inhabited

namespace Key

/-- What a key means: a number its value, a moment whose clock is known its instant, a pair the
meanings of its parts, and any other key itself. -/
inductive Meaning where
  | number (x : Rat)
  | instant (microseconds : Int)
  | pair (first second : Meaning)
  | itself (key : Key)
deriving DecidableEq

/-- What a key **means**. -/
def meaning : Key → Meaning
  | int n => .number n
  | bool b => .number (if b then 1 else 0)
  | float x =>
    match x.toRat? with
    | some r => .number r
    | none => .itself (float x)
  | moment m =>
    match m.instant? with
    | some microseconds => .instant microseconds
    | none => .itself (moment m)
  | pair first second => .pair first.meaning second.meaning
  | text s => .itself (text s)
  | bytes b => .itself (bytes b)
  | day d => .itself (day d)
  | null => .itself null

/-- Whether two keys name the same member. -/
def same (a b : Key) : Bool := a.meaning == b.meaning

end Key

/-- A value of a setting. -/
inductive Value where
  | null
  | bool (b : Bool)
  | int (n : Int)
  | float (x : Binary64)
  | text (s : Text)
  | bytes (b : Bytes)
  | day (d : Day)
  | moment (m : Moment)
  | list (items : List Value)
  /-- The items of a set, in the order in which a program goes through them. -/
  | set (items : List Key)
  | pair (first second : Value)
  | table (members : List (Key × Value))
deriving Inhabited

/-- The value that a key is. -/
def Key.toValue : Key → Value
  | text s => .text s
  | int n => .int n
  | float x => .float x
  | bool b => .bool b
  | null => .null
  | bytes b => .bytes b
  | day d => .day d
  | moment m => .moment m
  | pair first second => .pair first.toValue second.toValue

/-- The members of a table in order. -/
abbrev Table := List (Key × Value)

namespace Table

/-- Puts a value under a key: in the place of the key if it is there, else at the end. -/
def put (key : Key) (value : Value) : Table → Table
  | [] => [(key, value)]
  | member :: rest =>
    if member.1.same key then (member.1, value) :: rest else member :: put key value rest

/-- Puts several members, one after the other. -/
def putAll (members : List (Key × Value)) (table : Table) : Table :=
  members.foldl (fun table member => put member.1 member.2 table) table

/-- The table with the given members, the last of those with the same key counting. -/
def ofMembers (members : List (Key × Value)) : Table := putAll members []

/-- The value under a key. -/
def get? (key : Key) (table : Table) : Option Value :=
  (table.find? fun member => member.1.same key).map Prod.snd

end Table

namespace Value

/-- The name of the kind of a value, as messages give it. -/
def kindName : Value → Text
  | null => "NoneType"
  | bool _ => "bool"
  | int _ => "int"
  | float _ => "float"
  | text _ => "str"
  | bytes _ => "bytes"
  | day _ => "datetime.date"
  | moment _ => "datetime.datetime"
  | list _ => "list"
  | set _ => "set"
  | pair _ _ => "tuple"
  | table _ => "dict"

/-- Whether a value counts as nothing: zero, whatever is empty, and `null`. -/
def isFalsy : Value → Bool
  | null => true
  | bool b => !b
  | int n => n == 0
  | float x => x.isZero
  | text s => s.isEmpty
  | bytes b => b.isEmpty
  | day _ | moment _ | pair _ _ => false
  | list items => items.isEmpty
  | set items => items.isEmpty
  | table members => members.isEmpty

/-- The key that a value can serve as; a pair can if both its parts can. -/
def toKey? : Value → Option Key
  | null => some .null
  | bool b => some (.bool b)
  | int n => some (.int n)
  | float x => some (.float x)
  | text s => some (.text s)
  | bytes b => some (.bytes b)
  | day d => some (.day d)
  | moment m => some (.moment m)
  | pair first second => first.toKey?.bind fun a => second.toKey?.map fun b => .pair a b
  | list _ | set _ | table _ => none

end Value

/-! ### Display -/

/-- The bytes in a message: those that are no printable ASCII characters are written as
escapes. -/
def displayBytes (b : Bytes) : Text :=
  let quote : Char := if 39 ∈ b ∧ 34 ∉ b then '"' else '\''
  let one (byte : UInt8) : Text :=
    let c := Char.ofNat byte.toNat
    if c.toNat < 0x7F then Text.quoteChar quote c else "\\x" ++ Text.padHex 2 byte.toNat
  'b' :: quote :: b.flatMap one ++ [quote]

namespace Key

/-- The text of a key inside a displayed value. -/
def display : Key → Text
  | text s => s.quoted
  | int n => Text.ofInt n
  | float x => x.toText
  | bool b => if b then "True" else "False"
  | null => "None"
  | bytes b => displayBytes b
  | day d => d.display
  | moment m => m.display
  | pair first second => '(' :: first.display ++ ", " ++ second.display ++ ")"

/-- The text of a key where every key is written as a text. -/
def toText : Key → Text
  | text s => s
  | day d => d.toText
  | moment m => m.toText
  | key => key.display

/-- The name of the kind of a key. -/
def kindName : Key → Text
  | text _ => "str"
  | int _ => "int"
  | float _ => "float"
  | bool _ => "bool"
  | null => "NoneType"
  | bytes _ => "bytes"
  | day _ => "datetime.date"
  | moment _ => "datetime.datetime"
  | pair _ _ => "tuple"

end Key

namespace Value

mutual

/-- The text of a value inside another one: texts are quoted, lists stand in brackets, pairs in
parentheses, sets and tables in braces. -/
def display : Value → Text
  | null => "None"
  | bool b => if b then "True" else "False"
  | int n => Text.ofInt n
  | float x => x.toText
  | text s => s.quoted
  | bytes b => displayBytes b
  | day d => d.display
  | moment m => m.display
  | list items => '[' :: displayItems items ++ "]"
  | set [] => "set()"
  | set items => '\x7b' :: Text.join ", " (items.map Key.display) ++ "\x7d"
  | pair first second => '(' :: first.display ++ ", " ++ second.display ++ ")"
  | table members => '\x7b' :: displayMembers members ++ "\x7d"

/-- The items of a list with commas between them. -/
def displayItems : List Value → Text
  | [] => []
  | [item] => item.display
  | item :: rest => item.display ++ ", " ++ displayItems rest

/-- The members of a table with commas between them. -/
def displayMembers : List (Key × Value) → Text
  | [] => []
  | [(key, value)] => key.display ++ ": " ++ value.display
  | (key, value) :: rest => key.display ++ ": " ++ value.display ++ ", " ++ displayMembers rest

end

/-- The text of a value by itself: a text stands as it is. -/
def toText : Value → Text
  | text s => s
  | day d => d.toText
  | moment m => m.toText
  | value => value.display

end Value

end NativeFinder
