import NativeFinder.CommandLine.Program

/-!
# The program in the world

Everything that the program decides is decided in `Program.run`. Here the files that it may
read are fetched beforehand, and those that it has changed are written afterwards. A run that
waits for more input is done again with one line more, and only what it adds to the output is
shown.

There is no connection to the web from here: every address is answered by a failure.
-/

namespace NativeFinder

namespace Main

/-- The web as it is seen from here. -/
def noWeb : Web := fun _ => { outcome := .broken .connect "No connection to the web", delay := 0 }

/-- The place that a path names when all its folders are plain ones. -/
def placeOf (base : Place) (path : FilePath) : Place :=
  path.parts.foldl (fun place part =>
    if part = FilePath.upward then place.dropLast else place ++ [part])
    (if path.isAbsolute then [] else base)

/-- What there is at a path. -/
def nodeAt (path : FilePath) : IO (Option FileNode) := do
  match ← (IO.FS.readBinFile (String.ofList path.toText)).toBaseIO with
  | .ok content => return some (.file content.data.toList)
  | .error (.noFileOrDirectory ..) => return none
  | .error _ => return some .folder

/-- Adds to a tree what there is on the way to a path. -/
def fetch (tree : FileTree) (path : FilePath) : IO FileTree := do
  let mut tree := tree
  for n in List.range path.parts.length do
    let step : FilePath := { path with parts := path.parts.take (n + 1) }
    match ← nodeAt step with
    | none => return tree
    | some node =>
      let place := placeOf tree.base step
      if !place.isEmpty then tree := tree.put place node
  return tree

/-- Writes the files that a run has changed. -/
def store (before after : FileTree) : IO Unit := do
  for (place, content) in after.newFiles before do
    IO.FS.createDirAll (String.ofList ('/' :: Text.join ['/'] place.dropLast))
    IO.FS.writeBinFile (String.ofList ('/' :: Text.join ['/'] place)) ⟨content.toArray⟩

/-- Shows records on the error output. -/
def showRecords (records : List Log.Record) : IO Unit := do
  for r in records do
    IO.eprintln (String.ofList (r.level.name ++ " " ++ r.message))

/-- Ends a run, of which `shown` characters have been shown already. -/
def finish (world : World) (result : CommandResult) (shown : Nat) : IO UInt32 := do
  IO.print (String.ofList (result.output.drop shown))
  store world.files result.files
  showRecords result.logs
  IO.eprint (String.ofList result.errors)
  return result.exitCode.toUInt32

/-- Runs the program, and again with every line that it waits for. -/
partial def converse (world : World) (words : List Text) (shown : Nat) : IO UInt32 := do
  match Program.run world words with
  | .help reason logs =>
    showRecords logs
    let text := String.ofList Program.helpText
    if reason.isOutput then IO.print text else IO.eprint text
    return reason.exitCode.toUInt32
  | .escaped e logs =>
    showRecords logs
    IO.eprintln (String.ofList e.message)
    return 1
  | .result result =>
    if result.waiting = .nothing then finish world result shown
    else
      IO.print (String.ofList (result.output.drop shown))
      (← IO.getStdout).flush
      let shown := result.output.length
      let line ← (← IO.getStdin).getLine
      if line.isEmpty then finish world result shown
      else
        let text := Text.dropEndWhile (fun c => c == '\n' || c == '\x0d') line.toList
        let echoed := if result.waiting = .answer then text.length + 1 else 0
        converse { world with lines := world.lines ++ [text] } words (shown + echoed)

end Main

end NativeFinder

open NativeFinder in
/-- Runs the program with the words of the command line. -/
def main (arguments : List String) : IO UInt32 := do
  let words := arguments.map String.toList
  let home := FilePath.ofText ((← IO.getEnv "HOME").getD "/").toList
  let base := (FilePath.ofText (← IO.currentDir).toString.toList).parts
  let mut files := FileTree.empty base
  for path in Program.paths home words do
    files ← Main.fetch files path
  let mut environment : List (Text × Text) := []
  for (name, _) in Settings.layeredVariables do
    if let some value ← IO.getEnv (String.ofList name) then
      environment := environment ++ [(name, value.toList)]
  Main.converse { files, home, environment, web := Main.noWeb, lines := [] } words 0
