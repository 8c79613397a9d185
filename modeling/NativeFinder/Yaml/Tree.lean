import NativeFinder.Yaml.Token

/-!
# The structure of a YAML text

Tokens are put together to trees: scalars, lists, and tables whose keys are trees themselves, each
with its anchor and its tag, and aliases in the place of trees. What is left out, such as the value
behind a colon at the end of a line, is an empty plain scalar.

The readers take tokens from the front and give the rest. They count down a bound on their
nesting, which is set by the number of tokens.
-/

namespace NativeFinder

namespace Yaml

/-- What stands before a node. -/
structure Properties where
  anchor : Option Text := none
  tag : Option TagMark := none
deriving DecidableEq, Inhabited

/-- The structure of a node as it is written. -/
inductive Tree where
  | alias (name : Text)
  | scalar (properties : Properties) (text : Text) (isPlain : Bool)
  | list (properties : Properties) (items : List Tree)
  | table (properties : Properties) (members : List (Tree × Tree))
deriving Inhabited

namespace Tree

/-- What stands for something left out. -/
def empty : Tree := .scalar {} [] true

/-- The tokens before which an item or a value between brackets may be left out. -/
def endsFlow (closing : Token) (ts : List Token) : Bool :=
  ts.head? == some .comma || ts.head? == some closing

/-- The tokens before which a key or a value outside of brackets may be left out. -/
def endsBlock (ts : List Token) : Bool :=
  match ts with
  | .key :: _ | .colon :: _ | .blockEnd :: _ => true
  | _ => false

/-- Reads a node unless it is left out. -/
def orEmpty (isLeftOut : Bool) (read : List Token → Option (Tree × List Token))
    (ts : List Token) : Option (Tree × List Token) :=
  if isLeftOut then some (empty, ts) else read ts

/-- Takes the comma between two items; before the first item and at the end there is none. -/
def dropComma? (closing : Token) (isFirst : Bool) (ts : List Token) : Option (List Token) :=
  if isFirst || ts.head? == some closing then some ts
  else match ts with
    | .comma :: ts => some ts
    | _ => none

/-- Reads the anchor and the tag before a node, in any order. -/
def readProperties : List Token → Properties × List Token
  | .anchor name :: .tag mark :: ts | .tag mark :: .anchor name :: ts => (⟨name, mark⟩, ts)
  | .anchor name :: ts => (⟨name, none⟩, ts)
  | .tag mark :: ts => (⟨none, mark⟩, ts)
  | ts => ({}, ts)

mutual

/-- Reads a node. Only outside of brackets does the layout open a list or a table; where
`dashes` is set, a list may also begin without being indented deeper. -/
def read? (isBlock dashes : Bool) : Nat → List Token → Option (Tree × List Token)
  | 0, _ => none
  | fuel + 1, ts =>
    let (properties, behind) := readProperties ts
    match behind with
    | .alias name :: behind => if properties = {} then some (.alias name, behind) else none
    | .scalar text isPlain :: behind => some (.scalar properties text isPlain, behind)
    | .bracketOpen :: behind => do
      let (items, rest) ← readFlowItems? fuel true behind
      some (.list properties items, rest)
    | .braceOpen :: behind => do
      let (members, rest) ← readFlowMembers? fuel true behind
      some (.table properties members, rest)
    | behind =>
      match dashes, isBlock, behind with
      | true, _, .dash :: _ => do
        let (items, rest) ← readItems? fuel false behind
        some (.list properties items, rest)
      | _, true, .listStart :: behind => do
        let (items, rest) ← readItems? fuel true behind
        some (.list properties items, rest)
      | _, true, .tableStart :: behind => do
        let (members, rest) ← readMembers? fuel behind
        some (.table properties members, rest)
      -- a node may be nothing but its anchor and its tag
      | _, _, _ => if properties = {} then none else some (.scalar properties [] true, behind)

/-- Reads the items of a list behind their dashes. A list that was indented ends with a token
of its own, any other one at the first token that is no dash. -/
def readItems? : Nat → (isIndented : Bool) → List Token → Option (List Tree × List Token)
  | 0, _, _ => none
  | fuel + 1, isIndented, ts =>
    match ts with
    | .dash :: ts => do
      let isLeftOut := ts.head? == some .dash || ts.head? == some .blockEnd ||
        (!isIndented && endsBlock ts)
      let (item, ts) ← orEmpty isLeftOut (read? true false fuel) ts
      let (items, ts) ← readItems? fuel isIndented ts
      some (item :: items, ts)
    | .blockEnd :: rest => some ([], if isIndented then rest else ts)
    | ts => if isIndented then none else some ([], ts)

/-- Reads the members of a table up to its end. -/
def readMembers? : Nat → List Token → Option (List (Tree × Tree) × List Token)
  | 0, _ => none
  | fuel + 1, ts =>
    match ts with
    | .key :: ts => do
      let (key, ts) ← orEmpty (endsBlock ts) (read? true true fuel) ts
      let (value, ts) ← readValue? fuel ts
      let (members, ts) ← readMembers? fuel ts
      some ((key, value) :: members, ts)
    | .blockEnd :: ts => some ([], ts)
    | _ => none

/-- Reads the value of a member behind its colon. -/
def readValue? : Nat → List Token → Option (Tree × List Token)
  | 0, _ => none
  | fuel + 1, ts =>
    match ts with
    | .colon :: ts => orEmpty (endsBlock ts) (read? true true fuel) ts
    | ts => some (empty, ts)

/-- Reads the items of a list up to its bracket. A member among them is a table of its own. -/
def readFlowItems? : Nat → (isFirst : Bool) → List Token → Option (List Tree × List Token)
  | 0, _, _ => none
  | fuel + 1, isFirst, ts => do
    match ← dropComma? .bracketClose isFirst ts with
    | .bracketClose :: ts => some ([], ts)
    | .key :: ts =>
      let isLeftOut := ts.head? == some .colon || endsFlow .bracketClose ts
      let (key, ts) ← orEmpty isLeftOut (read? false false fuel) ts
      let (value, ts) ← readFlowValue? fuel .bracketClose ts
      let (items, ts) ← readFlowItems? fuel false ts
      some (.table {} [(key, value)] :: items, ts)
    | ts =>
      let (item, ts) ← read? false false fuel ts
      let (items, ts) ← readFlowItems? fuel false ts
      some (item :: items, ts)

/-- Reads the members of a table up to its brace. A node by itself is a key without value. -/
def readFlowMembers? : Nat → (isFirst : Bool) → List Token →
    Option (List (Tree × Tree) × List Token)
  | 0, _, _ => none
  | fuel + 1, isFirst, ts => do
    match ← dropComma? .braceClose isFirst ts with
    | .braceClose :: ts => some ([], ts)
    | .key :: ts =>
      let isLeftOut := ts.head? == some .colon || endsFlow .braceClose ts
      let (key, ts) ← orEmpty isLeftOut (read? false false fuel) ts
      let (value, ts) ← readFlowValue? fuel .braceClose ts
      let (members, ts) ← readFlowMembers? fuel false ts
      some ((key, value) :: members, ts)
    | ts =>
      let (key, ts) ← read? false false fuel ts
      let (members, ts) ← readFlowMembers? fuel false ts
      some ((key, empty) :: members, ts)

/-- Reads the value of a member between brackets behind its colon. -/
def readFlowValue? : Nat → (closing : Token) → List Token → Option (Tree × List Token)
  | 0, _, _ => none
  | fuel + 1, closing, ts =>
    match ts with
    | .colon :: ts => orEmpty (endsFlow closing ts) (read? false false fuel) ts
    | ts => some (empty, ts)

end

/-- The tokens behind a document, of which there must be only marks of its end. -/
def isOver (ts : List Token) : Bool := ts.all fun t => t == .documentEnd

/-- The directives before a document, and the other tokens. -/
def readDirectives : List Token → List Directive × List Token
  | .directive d :: ts =>
    let (directives, rest) := readDirectives ts
    (d :: directives, rest)
  | ts => ([], ts)

/-- The tree of a document with the directives before it, if the tokens are one document; `none`
inside if there is none. -/
def ofTokens? (ts : List Token) : Option (Option (List Directive × Tree)) :=
  let fuel := 4 * ts.length + 4
  let (directives, ts) := readDirectives ts
  match ts with
  | [] => if directives.isEmpty then some none else none
  | .documentStart :: ts => do
    let isLeftOut := ts.isEmpty || ts.head? == some .documentEnd
    let (tree, rest) ← orEmpty isLeftOut (read? true false fuel) ts
    if isOver rest then some (some (directives, tree)) else none
  | ts => do
    let (tree, rest) ← read? true false fuel ts
    if directives.isEmpty && isOver rest then some (some (directives, tree)) else none

end Tree

end Yaml

end NativeFinder
