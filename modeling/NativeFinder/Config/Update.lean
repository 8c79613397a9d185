import NativeFinder.Value

/-!
# Updating a table

A table can be updated from any value that gives members: another table, or a sequence of
pairs, of a key and a value each. A text is a sequence of characters, so that the text `ab` is
a pair, bytes are a sequence of numbers, and a table is a sequence of its keys. The members are
put one after the other; those before the first item that is no pair stay.
-/

namespace NativeFinder

/-- Why a value does not give members. -/
inductive UpdateError where
  /-- The value is no sequence. -/
  | notSequence (kind : Text)
  /-- An item is no sequence. -/
  | notPair (index : Nat)
  /-- An item is a sequence, but not of two. -/
  | wrongLength (index length : Nat)
  /-- The first part of a pair cannot be a key. -/
  | notKey (kind : Text)
deriving DecidableEq, Inhabited

namespace UpdateError

/-- The wording of the errors. -/
def message : UpdateError → Text
  | notSequence kind => "'" ++ kind ++ "' object is not iterable"
  | notPair index =>
    "cannot convert dictionary update sequence element #" ++ Text.ofNat index ++ " to a sequence"
  | wrongLength index length =>
    "dictionary update sequence element #" ++ Text.ofNat index ++ " has length " ++
      Text.ofNat length ++ "; 2 is required"
  | notKey kind => "unhashable type: '" ++ kind ++ "'"

/-- Whether a value of the wrong kind is to blame, and not a sequence of the wrong length. -/
def isWrongKind : UpdateError → Bool
  | wrongLength _ _ => false
  | _ => true

end UpdateError

namespace Value

/-- The items of a value that is a sequence. -/
def items? : Value → Option (List Value)
  | text s => some (s.map fun c => text [c])
  | bytes b => some (b.map fun byte => int byte.toNat)
  | list items => some items
  | set items => some (items.map Key.toValue)
  | pair first second => some [first, second]
  | table members => some (members.map fun member => member.1.toValue)
  | null | bool _ | int _ | float _ | day _ | moment _ => none

/-- The kind of the part of a value that keeps it from being a key. -/
def keylessKind : Value → Text
  | pair first second =>
    if first.toKey?.isNone then first.keylessKind else second.keylessKind
  | value => value.kindName

end Value

namespace Table

/-- The member that an item of a sequence gives. -/
def memberOf (index : Nat) (item : Value) : Except UpdateError (Key × Value) :=
  match item.items? with
  | none => .error (.notPair index)
  | some [key, value] =>
    match key.toKey? with
    | some k => .ok (k, value)
    | none => .error (.notKey key.keylessKind)
  | some parts => .error (.wrongLength index parts.length)

/-- Puts the members that items give, the first item counting as number `index`. -/
def putItems (table : Table) (index : Nat) : List Value → Table × Option UpdateError
  | [] => (table, none)
  | item :: items =>
    match memberOf index item with
    | .error e => (table, some e)
    | .ok (key, value) => putItems (put key value table) (index + 1) items

/-- Updates a table from a value. -/
def update (table : Table) (source : Value) : Table × Option UpdateError :=
  match source with
  | .table members => (putAll members table, none)
  | source =>
    match source.items? with
    | none => (table, some (.notSequence source.kindName))
    | some items => putItems table 0 items

end Table

end NativeFinder
