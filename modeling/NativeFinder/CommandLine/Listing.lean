import NativeFinder.CommandLine.Report
import NativeFinder.Detail.Page
import NativeFinder.Detail.PanelLayout
import NativeFinder.Listing.Export
import NativeFinder.Listing.TableLayout

/-!
# Commands that answer at once

Two commands load the documentation and answer without a dialogue. One lists the entries, all
of them or the matches of a query, as a table or as JSON. The other one shows the entry of a
name, or writes a page about it.
-/

namespace NativeFinder

namespace CommandLine

/-! ### Loading -/

/-- What the loading of the documentation comes to, for a command that answers at once. -/
inductive Loaded where
  | entries (texts : List Text) (entries : List Entry)
  | failed (error : CommandError)
  | interrupted

/-- Loads and reads the documentation, and gives the records of it. -/
def loadEntries (world : World) (settings : Table) (paths : List FilePath) :
    Loaded × List Log.Record :=
  match Loader.ofSettings settings paths with
  | .error e => (.failed (.settings e), [])
  | .ok loader =>
    match loader.load world.files world.web with
    | (.failed f, logs) => (.failed (.source f), logs)
    | (.interrupted, logs) => (.interrupted, logs)
    | (.texts texts, logs) =>
      let entries := Entry.ofTexts texts
      (.entries texts entries, logs ++ [Session.parsedRecord texts entries])

/-- Goes on with the entries, if they have been loaded. -/
def withEntries (world : World) (settings : Table) (paths : List FilePath)
    (goOn : List Entry → CommandResult) : CommandResult :=
  match loadEntries world settings paths with
  | (.failed e, logs) => .failed world.files logs e
  | (.interrupted, logs) => .interrupted world.files logs
  | (.entries _ entries, logs) => (goOn entries).after logs

/-! ### Listings -/

/-- What a listing shows: entries, or the matches of a query. -/
inductive Shown where
  | entries (entries : List Entry)
  | found (found : List Match)
deriving Inhabited

namespace Shown

/-- The rows of a listing. -/
def rows : Shown → List Row
  | entries es => es.map Row.ofEntry
  | found ms => ms.map fun m => Row.ofEntry m.entry

/-- The JSON text of a listing. -/
def json : Shown → Text
  | entries es => Entry.listingJson es
  | found ms => Match.listingJson ms

end Shown

/-- Cuts what is listed to the limit of the options or the settings. -/
def limited {α : Type} (limit : Option Limit) (xs : List α) : Except CommandError (List α) :=
  match limit with
  | some limit => .ok (limit.apply xs)
  | none => .error .limit

/-- What is listed for a query: its matches, or all entries if it is blank. A query that is too
short has no matches, whatever the limit is. -/
def shown (index : Index) (query : Option Text) (limit : Option Limit) :
    Except CommandError Shown :=
  match query with
  | some q =>
    if q.trim.isEmpty then (limited limit index.entries).map .entries
    else if index.isTooShort q.folded then .ok (.found [])
    else (limited limit (index.ranking q)).map .found
  | none => (limited limit index.entries).map .entries

/-- The output form of a listing in JSON. -/
def jsonOutput : Text := "json"

/-- The text of a listing. -/
def listingText (asJson : Bool) (total : Nat) (found : Shown) : Text :=
  match found with
  | .found [] => "❌ No matching functions found\n"
  | found =>
    if asJson then outputLine found.json
    else
      "✅ Showing " ++ Text.ofNat found.rows.length ++ " of " ++ Text.ofNat total ++
        " functions\n\n" ++ outputLine (RowTable.plainListing found.rows)

/-- Lists entries. -/
def list (world : World) (settings : Table) (query : Option Text) (limit : Option Int)
    (output : Text) (paths : List FilePath) : CommandResult :=
  withEntries world settings paths fun entries =>
    if entries.isEmpty then .done world.files [] "❌ No functions found\n"
    else
      match Index.build entries Index.defaultKeys (Settings.get settings Settings.thresholdKey)
          (Settings.get settings Settings.minMatchLengthKey) with
      | .error e => .failed world.files [] (.query e)
      | .ok index =>
        let logs := [Log.debug (Session.takeUp.indexedMessage entries)]
        let limit := match limit with
          | some n => some (some n)
          | none => Limit.ofValue? (Settings.get settings Settings.displayLimitKey)
        match shown index query limit with
        | .error e => .failed world.files logs e
        | .ok found =>
          .done world.files logs (listingText (output == jsonOutput) entries.length found)

/-! ### Details -/

/-- The width of the console. -/
def consoleWidth : Nat := 80

/-- The number with which the program ends if there is no entry of a name. -/
def notFoundCode : Nat := 2

/-- Writes the page about an entry. -/
def writePage (files : FileTree) (e : Entry) (path : FilePath) : CommandResult :=
  match (Rendering.page.detail e).page? with
  | .error _ => .done files [] []
  | .ok page =>
    match files.write path.toText (Utf8.encode page) with
    | .error e => .failed files [] (.file e)
    | .ok files => .done files [] ("✅ Wrote " ++ outputLine path.toText)

/-- Shows the details of an entry. -/
def showDetail (files : FileTree) (e : Entry) : CommandResult :=
  match (Rendering.console.detail e).panel with
  | .error e => .failed files [] (.markup e)
  | .ok panel => .done files [] (panel.layout consoleWidth)

/-- Shows the entry of a name, or writes a page about it. -/
def detail (world : World) (settings : Table) (name : Text) (page : Option FilePath)
    (paths : List FilePath) : CommandResult :=
  withEntries world settings paths fun entries =>
    match entries.find? fun e => e.name == name, page with
    | none, _ => .done world.files [] ("❌ Function '" ++ name ++ "' not found\n") notFoundCode
    | some e, some path => writePage world.files e path
    | some e, none => showDetail world.files e

end CommandLine

end NativeFinder
