import NativeFinder.File.Path
import NativeFinder.Text.Quoted
import NativeFinder.Text.Utf8

/-!
# File trees

A file tree holds folders and files, and names the folder in which relative paths start.
Following a path part by part leads to a **spot**: something that is there, or a free place in
a folder.

Reading and writing fail with a `FileError`, which names the path as it was given and what
stands in the way. A tree is a value: writing gives a new one.
-/

namespace NativeFinder

/-- What stands in the way of reading or writing. -/
inductive FileFault where
  | notFound
  | exists
  | notFolder
  | isFolder
deriving DecidableEq, Inhabited

/-- A fault with the path that met it. -/
structure FileError where
  fault : FileFault
  path : Text
deriving DecidableEq, Inhabited

namespace FileError

/-- The number of a fault. -/
def number (e : FileError) : Nat :=
  match e.fault with
  | .notFound => 2
  | .exists => 17
  | .notFolder => 20
  | .isFolder => 21

/-- The wording of a fault. -/
def reason (e : FileError) : Text :=
  match e.fault with
  | .notFound => "No such file or directory"
  | .exists => "File exists"
  | .notFolder => "Not a directory"
  | .isFolder => "Is a directory"

/-- The wording of the errors. -/
def message (e : FileError) : Text :=
  "[Errno " ++ Text.ofNat e.number ++ "] " ++ e.reason ++ ": " ++ e.path.quoted

end FileError

/-- What there is at a place. -/
inductive FileNode where
  | folder
  | file (content : Bytes)
deriving DecidableEq, Inhabited

/-- A place: the names that lead to it from the root of all files. -/
abbrev Place := List Text

/-- Folders and files, each with its place. -/
structure FileTree where
  /-- The folder in which relative paths start. -/
  base : Place
  nodes : List (Place × FileNode)
deriving Inhabited

namespace FileTree

/-- What there is at a place; the empty place is the root, which is a folder. -/
def at? (t : FileTree) (place : Place) : Option FileNode :=
  if place.isEmpty then some .folder else t.nodes.lookup place

/-- Puts something at a place, whatever was there before. -/
def put (t : FileTree) (place : Place) (node : FileNode) : FileTree :=
  { t with nodes := (place, node) :: t.nodes.filter fun entry => entry.1 != place }

/-- Puts something at a place, with the folders on the way to it as far as they are missing. -/
def add (t : FileTree) (place : Place) (node : FileNode) : FileTree :=
  let way := (List.range place.length).map place.take
  (way.foldl (fun t folder => if (t.at? folder).isNone then t.put folder .folder else t) t).put
    place node

/-- The tree that holds nothing but the folder in which relative paths start. -/
def empty (base : Place) : FileTree := add { base, nodes := [] } base .folder

/-! ### Following a path -/

/-- Where a path leads. -/
inductive Spot where
  | found (place : Place) (node : FileNode)
  | free (place : Place)
deriving DecidableEq, Inhabited

/-- Goes from a spot to the one that a part names. Only a folder leads further. -/
def advance (t : FileTree) (spot : Spot) (part : Text) : Except FileFault Spot :=
  match spot with
  | .free _ => .error .notFound
  | .found _ (.file _) => .error .notFolder
  | .found place .folder =>
    if part = FilePath.upward then .ok (.found place.dropLast .folder)
    else
      let next := place ++ [part]
      .ok (match t.at? next with
        | some node => .found next node
        | none => .free next)

/-- Where a path leads from a spot. Empty parts and single dots stay where they are, but only
in a folder. -/
def follow (t : FileTree) : Spot → List Text → Except FileFault Spot
  | spot, [] => .ok spot
  | spot, part :: rest =>
    if FilePath.isMeaningful part then do t.follow (← t.advance spot part) rest
    else match spot with
      | .free _ => .error .notFound
      | .found _ (.file _) => .error .notFolder
      | _ => t.follow spot rest

/-- Where the path that a text names leads. The empty text names nothing. -/
def spot (t : FileTree) (path : Text) : Except FileError Spot :=
  let led : Except FileFault Spot := match path with
    | [] => .error .notFound
    | '/' :: rest => t.follow (.found [] .folder) (Text.splitOn '/' rest)
    | path => t.follow (.found t.base .folder) (path.splitOn '/')
  led.mapError fun fault => ⟨fault, path⟩

/-- Whether a path leads to something. -/
def contains (t : FileTree) (path : Text) : Bool :=
  match t.spot path with
  | .ok (.found _ _) => true
  | _ => false

/-- Whether a path leads to a folder. -/
def containsFolder (t : FileTree) (path : Text) : Bool :=
  match t.spot path with
  | .ok (.found _ .folder) => true
  | _ => false

/-! ### Reading and writing -/

/-- The content of the file that a path leads to. -/
def read (t : FileTree) (path : Text) : Except FileError Bytes := do
  match ← t.spot path with
  | .found _ (.file content) => .ok content
  | .found _ .folder => .error ⟨.isFolder, path⟩
  | .free _ => .error ⟨.notFound, path⟩

/-- Gives the file that a path leads to a content. The file may be new, its folder not. -/
def write (t : FileTree) (path : Text) (content : Bytes) : Except FileError FileTree := do
  match ← t.spot path with
  | .found place (.file _) | .free place => .ok (t.put place (.file content))
  | .found _ .folder => .error ⟨.isFolder, path⟩

/-- Makes a new folder in a folder that is there. -/
def makeFolder (t : FileTree) (path : Text) : Except FileError FileTree := do
  match ← t.spot path with
  | .free place => .ok (t.put place .folder)
  | .found _ _ => .error ⟨.exists, path⟩

/-- Makes a folder unless there is one already. -/
def ensureFolder (t : FileTree) (path : Text) : Except FileError FileTree :=
  match t.makeFolder path with
  | .ok t => .ok t
  | .error e => if t.containsFolder path then .ok t else .error e

/-- Makes the folder of a path and the folders on the way to it. The parts are given from the
last one to the first. -/
def makeFoldersAt (t : FileTree) (isAbsolute : Bool) : List Text → Except FileError FileTree
  | [] => t.ensureFolder (FilePath.toText ⟨isAbsolute, []⟩)
  | part :: above =>
    let path := FilePath.toText ⟨isAbsolute, (part :: above).reverse⟩
    match t.makeFolder path with
    | .ok t => .ok t
    | .error e =>
      if e.fault = .notFound then do
        let t ← t.makeFoldersAt isAbsolute above
        t.ensureFolder path
      else if t.containsFolder path then .ok t
      else .error e

/-- Makes the folder of a path and the folders on the way to it, as far as they are missing. -/
def makeFolders (t : FileTree) (path : FilePath) : Except FileError FileTree :=
  t.makeFoldersAt path.isAbsolute path.parts.reverse

/-- The files of a tree that another tree does not have, or has with a different content. -/
def newFiles (t before : FileTree) : List (Place × Bytes) :=
  t.nodes.filterMap fun entry => match entry.2 with
    | .file content =>
      if before.at? entry.1 = some (.file content) then none else some (entry.1, content)
    | .folder => none

end FileTree

end NativeFinder
