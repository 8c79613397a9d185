import NativeFinder.Yaml.Node

/-!
# Reading YAML

`Yaml.parse` reads a text that is one YAML document, or none, and gives its value. Of members
with the same key the last one counts. The members of a table under the key `<<` are put
before its own ones; they are those of another table, or of several ones, of which the first ones
count most.

Where a tag asks for a form that its node does not have, the text is malformed.
-/

namespace NativeFinder

namespace Yaml

mutual

/-- The value of a node. -/
def valueOf : Node → Except ReadError Value
  | .scalar kind text => kind.value text
  | .list kind items => do
    match kind with
    | .list => .ok (.list (← valuesOf items))
    | .pairs => .ok (.list (← pairsOf items))
    | _ => .error .malformed
  | .table kind members => do
    match kind with
    | .table =>
      let (merged, own) ← membersOf members
      .ok (.table (Table.ofMembers (merged ++ own)))
    | .set =>
      let (merged, own) ← membersOf members
      .ok (.set ((Table.ofMembers (merged ++ own)).map Prod.fst))
    | kind =>
      match Node.defaultText? members with
      | some text => kind.value text
      | none => .error .malformed

/-- The values of nodes. -/
def valuesOf : List Node → Except ReadError (List Value)
  | [] => .ok []
  | node :: nodes => do
    let value ← valueOf node
    .ok (value :: (← valuesOf nodes))

/-- The pairs of nodes that are tables of one member each. -/
def pairsOf : List Node → Except ReadError (List Value)
  | [] => .ok []
  | .table _ [(first, second)] :: nodes => do
    let first ← valueOf first
    let second ← valueOf second
    .ok (.pair first second :: (← pairsOf nodes))
  | _ :: _ => .error .malformed

/-- The members of a table: those merged into it, and its own ones. -/
def membersOf : List (Node × Node) →
    Except ReadError (List (Key × Value) × List (Key × Value))
  | [] => .ok ([], [])
  | (keyNode, node) :: rest => do
    if keyNode.kind = .merge then
      let members ← mergedOf node
      let (merged, own) ← membersOf rest
      .ok (members ++ merged, own)
    else
      let found ←
        if keyNode.kind = .default then
          match keyNode.scalarText? with
          | some text => .ok (.text text)
          | none => .error .malformed
        else valueOf keyNode
      match found.toKey? with
      | none => .error .malformed
      | some key =>
        let value ← valueOf node
        let (merged, own) ← membersOf rest
        .ok (merged, (key, value) :: own)

/-- The members that a node brings along where it is merged. -/
def mergedOf : Node → Except ReadError (List (Key × Value))
  | .scalar _ _ => .error .malformed
  | .table _ members => do
    let (merged, own) ← membersOf members
    .ok (merged ++ own)
  | .list _ items => mergedItems items

/-- The members that several tables bring along; those of the first ones come last. -/
def mergedItems : List Node → Except ReadError (List (Key × Value))
  | [] => .ok []
  | .table _ members :: items => do
    let (merged, own) ← membersOf members
    .ok ((← mergedItems items) ++ (merged ++ own))
  | _ :: _ => .error .malformed

end

/-- Reads a text that is one document; an empty text is `null`. -/
def parse (s : Text) : Except ReadError Value :=
  match Node.ofText? s with
  | none => .error .malformed
  | some none => .ok .null
  | some (some node) => valueOf node

end Yaml

end NativeFinder
