import NativeFinder.Text.Basic

/-!
# Entries

An **entry** is one documented native: its name, its parameters and its return type, the
signature made of the three, and its description, which is the doc comment together with
the declaration, kept word for word. `Entry.build` derives the signature and puts the
stand-ins `unknownName` and `nothing` where a part is missing, so that a built signature
always has the shape `name(parameters): returnType`.

`Entry.summary` is the line that a list shows beside the signature: the first line of prose
in the doc comment.
-/

namespace NativeFinder

/-- A documented native. -/
structure Entry where
  name : Text
  signature : Text
  description : Text
  parameters : Text
  returnType : Text
deriving DecidableEq, Inhabited

namespace Entry

/-- Stands for a name that is missing. -/
def unknownName : Text := "Unknown Function"

/-- Stands for parameters or a return type that are missing. -/
def nothing : Text := "nothing"

/-- The part itself, or the stand-in where it is missing or empty. -/
def orElse (standIn : Text) : Option Text → Text
  | none | some [] => standIn
  | some part => part

/-- The signature made of its parts. -/
def signatureOf (name parameters returnType : Text) : Text :=
  name ++ "(" ++ parameters ++ "): " ++ returnType

/-- An entry made of its parts. Parameters are trimmed, and a part that is missing or empty
is replaced by its stand-in. -/
def build (name parameters returnType : Option Text) (description : Text) : Entry :=
  let name := orElse unknownName name
  let parameters := orElse nothing (parameters.map Text.trim)
  let returnType := orElse nothing returnType
  { name, parameters, returnType, description
    signature := signatureOf name parameters returnType }

/-! ### Summaries -/

/-- Whether a character is part of the decoration of a comment. -/
def isDecoration (c : Char) : Bool := c == '/' || c == '*'

/-- A line of a comment without the blanks and the decoration around it. -/
def undecorated (line : Text) : Text :=
  Text.trim (Text.dropEndWhile isDecoration ((Text.trim line).dropWhile isDecoration))

/-- The first line of prose: the first line that is not empty without its decoration and
is no annotation. The search ends at the line of the declaration. -/
def firstProse : List Text → Text
  | [] => []
  | line :: rest =>
    if ("native" : Text).isPrefixOf (Text.trim line) then []
    else
      let prose := undecorated line
      if prose.isEmpty || prose.head? == some '@' then firstProse rest else prose

/-- The first line of prose of the doc comment, or the empty text. -/
def summary (e : Entry) : Text := firstProse (Text.lines e.description)

end Entry

/-! ### Fields -/

/-- The fields of an entry that a search can look at. -/
inductive Field where
  | name | signature | description | parameters | returnType
deriving DecidableEq, Inhabited

namespace Field

/-- The key by which a field is asked for. -/
def key : Field → Text
  | name => "name"
  | signature => "signature"
  | description => "description"
  | parameters => "parameters"
  | returnType => "return_type"

/-- All fields. -/
def all : List Field := [name, signature, description, parameters, returnType]

/-- The field with a given key. -/
def ofKey? (key : Text) : Option Field := all.find? fun f => f.key == key

/-- A field is found by its key. -/
theorem ofKey?_key (f : Field) : ofKey? f.key = some f := by
  cases f <;> rfl

/-- The text of a field. -/
def get : Field → Entry → Text
  | name => Entry.name
  | signature => Entry.signature
  | description => Entry.description
  | parameters => Entry.parameters
  | returnType => Entry.returnType

end Field

end NativeFinder
