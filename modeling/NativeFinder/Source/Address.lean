import NativeFinder.Text.Basic

/-!
# Web addresses

An address has up to five components, and a **reference** may leave out the first ones, which
it then takes from the address of the document that it stands in. `Address.resolve` follows
the usual rule for this: the more a reference leaves out, the more it inherits, and a relative
path continues the path of the document behind its last slash.
-/

namespace NativeFinder

/-- The components of an address or a reference. -/
structure Address where
  scheme : Option Text
  authority : Option Text
  path : Text
  query : Option Text
  fragment : Option Text
deriving DecidableEq, Inhabited

namespace Address

/-! ### Reading and writing -/

/-- Splits off what precedes the first character of a set. -/
def cutBefore (stops : List Char) (s : Text) : Text × Text :=
  s.span fun c => !stops.contains c

/-- Splits off a component that begins with a mark, up to the first character of a set. -/
def cutMarked (mark : Text) (stops : List Char) (s : Text) : Option Text × Text :=
  match Text.dropPrefix? mark s with
  | none => (none, s)
  | some rest =>
    let (component, rest) := cutBefore stops rest
    (some component, rest)

/-- Splits off the scheme with its colon. A scheme begins with a letter. -/
def cutScheme (s : Text) : Option Text × Text :=
  match cutBefore [':', '/', '?', '#'] s with
  | (c :: scheme, ':' :: rest) =>
    if c.isAlpha then (some (Text.lowerAscii (c :: scheme)), rest) else (none, s)
  | _ => (none, s)

/-- Reads an address or a reference. -/
def ofText (s : Text) : Address :=
  let (scheme, s) := cutScheme s
  let (authority, s) := cutMarked ['/', '/'] ['/', '?', '#'] s
  let (path, s) := cutBefore ['?', '#'] s
  let (query, s) := cutMarked ['?'] ['#'] s
  let (fragment, _) := cutMarked ['#'] [] s
  { scheme, authority, path, query, fragment }

/-- Writes an address. -/
def toText (a : Address) : Text :=
  let marked (before : Text) (component : Option Text) (after : Text) : Text :=
    match component with
    | none => []
    | some s => before ++ s ++ after
  marked [] a.scheme [':'] ++ marked ['/', '/'] a.authority [] ++ a.path ++
    marked ['?'] a.query [] ++ marked ['#'] a.fragment []

/-! ### Paths -/

/-- Drops the parts of a path that lead nowhere: single dots, and names before two dots. What
ends in dots is a folder and keeps its slash. -/
def shortenParts (kept : List Text) : List Text → List Text
  | [] => kept
  | part :: rest =>
    let isLast := rest.isEmpty
    if part = ['.'] then shortenParts (if isLast then kept ++ [[]] else kept) rest
    else if part = ['.', '.'] then
      let kept := if kept.length ≤ 1 then kept else kept.dropLast
      shortenParts (if isLast then kept ++ [[]] else kept) rest
    else shortenParts (kept ++ [part]) rest

/-- The path without parts that lead nowhere. -/
def shorten (path : Text) : Text := Text.join ['/'] (shortenParts [] (path.splitOn '/'))

/-- A relative path, continued from the last slash of the path of `base`. -/
def continuePath (base : Address) (path : Text) : Text :=
  if base.authority.isSome && base.path.isEmpty then '/' :: path
  else Text.dropEndWhile (· != '/') base.path ++ path

/-! ### References -/

/-- The address that a reference stands for in the document at `base`. -/
def resolve (base reference : Address) : Address :=
  if reference.scheme.isSome then { reference with path := shorten reference.path }
  else if reference.authority.isSome then
    { reference with scheme := base.scheme, path := shorten reference.path }
  else
    let whole := { reference with scheme := base.scheme, authority := base.authority }
    if reference.path.isEmpty then
      { whole with path := base.path, query := reference.query <|> base.query }
    else if reference.path.head? == some '/' then { whole with path := shorten reference.path }
    else { whole with path := shorten (base.continuePath reference.path) }

/-- The address to go on to from `base`. A fragment is kept unless there is a new one, and so
is the host where a reference has a scheme but no host. -/
def goOn (base reference : Address) : Address :=
  let reference :=
    if reference.scheme.isSome && (reference.authority.getD []).isEmpty then
      { reference with authority := base.authority }
    else reference
  let next := resolve base reference
  { next with fragment := next.fragment <|> base.fragment }

end Address

end NativeFinder
