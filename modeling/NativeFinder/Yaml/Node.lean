import NativeFinder.Yaml.Tree

/-!
# The nodes of a YAML text

A node is a scalar, a list or a table of a kind. Its kind is that of its tag, or, without a tag,
what it is written as. `Tree.compose` makes nodes of trees in the order of the text: an alias stands
for the node that has been composed under the name of its anchor, which no two nodes may share.

A node that is repeated inside itself is not composed.
-/

namespace NativeFinder

namespace Yaml

/-- A node of a YAML text. -/
inductive Node where
  | scalar (kind : Kind) (text : Text)
  | list (kind : Kind) (items : List Node)
  | table (kind : Kind) (members : List (Node × Node))
deriving Inhabited

/-! ### Handles -/

/-- The handles that stand for something by themselves. -/
def commonHandles : List (Text × Text) := [(['!'], ['!']), ("!!", Kind.tagPrefix)]

/-- What handles stand for behind directives. There may be one directive for a version, which has to
be one of the first major version, and one for each handle. -/
def handlesOf? (hasVersion : Bool) (handles : List (Text × Text)) :
    List Directive → Option (List (Text × Text))
  | [] => some (handles ++ commonHandles)
  | .version major :: directives =>
    if hasVersion || major != 1 then none else handlesOf? true handles directives
  | .handle name stands :: directives =>
    if (handles.lookup name).isSome then none
    else handlesOf? hasVersion ((name, stands) :: handles) directives
  | .other :: directives => handlesOf? hasVersion handles directives

/-! ### Composing -/

/-- The nodes that have been composed under the names of anchors; `none` for one that is not
complete. -/
abbrev Anchors := List (Text × Option Node)

namespace Properties

/-- The kind that a tag names, or the one that is written where there is no special tag. -/
def kind? (handles : List (Text × Text)) (written : Kind) (properties : Properties) :
    Option Kind := do
  match properties.tag with
  | none => some written
  | some mark =>
    let tag ← match mark.handle with
      | none => some mark.suffix
      | some handle => (handles.lookup handle).map (· ++ mark.suffix)
    some (if tag = ['!'] then written else .ofTag tag)

/-- Takes down that the node of an anchor is being composed. -/
def enter? (anchors : Anchors) (properties : Properties) : Option Anchors :=
  match properties.anchor with
  | none => some anchors
  | some name => if (anchors.lookup name).isSome then none else some ((name, none) :: anchors)

/-- Takes down the node of an anchor. -/
def leave (anchors : Anchors) (properties : Properties) (node : Node) : Anchors :=
  match properties.anchor with
  | none => anchors
  | some name => (name, some node) :: anchors

end Properties

namespace Tree

/-- The kind of a scalar without a special tag. A tag of nothing but a mark makes a quoted scalar
like a plain one. -/
def writtenKind (properties : Properties) (text : Text) (isPlain : Bool) : Kind :=
  if isPlain || properties.tag.isSome then .ofPlain text else .text

mutual

/-- The node of a tree, and the nodes of anchors behind it. -/
def compose (handles : List (Text × Text)) (anchors : Anchors) : Tree → Option (Node × Anchors)
  | .alias name =>
    match anchors.lookup name with
    | some (some node) => some (node, anchors)
    | _ => none
  | .scalar properties text isPlain => do
    let anchors ← properties.enter? anchors
    let kind ← properties.kind? handles (writtenKind properties text isPlain)
    let node := Node.scalar kind text
    some (node, properties.leave anchors node)
  | .list properties items => do
    let anchors ← properties.enter? anchors
    let kind ← properties.kind? handles .list
    let (items, anchors) ← composeItems handles anchors items
    let node := Node.list kind items
    some (node, properties.leave anchors node)
  | .table properties members => do
    let anchors ← properties.enter? anchors
    let kind ← properties.kind? handles .table
    let (members, anchors) ← composeMembers handles anchors members
    let node := Node.table kind members
    some (node, properties.leave anchors node)

/-- The nodes of items. -/
def composeItems (handles : List (Text × Text)) (anchors : Anchors) :
    List Tree → Option (List Node × Anchors)
  | [] => some ([], anchors)
  | item :: items => do
    let (item, anchors) ← compose handles anchors item
    let (items, anchors) ← composeItems handles anchors items
    some (item :: items, anchors)

/-- The nodes of members. -/
def composeMembers (handles : List (Text × Text)) (anchors : Anchors) :
    List (Tree × Tree) → Option (List (Node × Node) × Anchors)
  | [] => some ([], anchors)
  | (key, value) :: members => do
    let (key, anchors) ← compose handles anchors key
    let (value, anchors) ← compose handles anchors value
    let (members, anchors) ← composeMembers handles anchors members
    some ((key, value) :: members, anchors)

end

end Tree

namespace Node

/-- The node of a text, if it is one document; `none` inside if it is empty. -/
def ofText? (s : Text) : Option (Option Node) := do
  match ← Tree.ofTokens? (← tokens? s) with
  | none => some none
  | some (directives, tree) =>
    let handles ← handlesOf? false [] directives
    let (node, _) ← tree.compose handles []
    some (some node)

/-- The kind of a node. -/
def kind : Node → Kind
  | .scalar kind _ | .list kind _ | .table kind _ => kind

mutual

/-- The text of a node where a scalar is wanted: that of a scalar, or of the default of a table. -/
def scalarText? : Node → Option Text
  | .scalar _ text => some text
  | .list _ _ => none
  | .table _ members => defaultText? members

/-- The text of the default among the members of a table. -/
def defaultText? : List (Node × Node) → Option Text
  | [] => none
  | (key, value) :: members =>
    if key.kind = .default then value.scalarText? else defaultText? members

end

end Node

end Yaml

end NativeFinder
