import NativeFinder.Declaration.Entries
import NativeFinder.Log
import NativeFinder.Search.Index
import NativeFinder.Session.Surface

/-!
# Search sessions

A session is one use of the search, from the moment it is asked for to the moment it is
dismissed. It begins a load of the documentation, and when the load settles it shows the
entries, or one row that says why there are none. Then every change of the query ranks the
entries anew, and selecting a row shows its details and ends the session.

Every event is a function from a session to a `Session.Step`: the session after it, the calls
it made on the surface, its log records, the entry that it gives back, if it is a selection, and
the error that escaped from it, if one did. Since
the settings are free values, they can turn out to be wrong in the middle of an event; the
step then holds the session as far as it had come.

A load that settles after the session was closed or cancelled is discarded.
-/

namespace NativeFinder

/-- Where a session stands. -/
inductive Phase where
  | loading
  | ready
  /-- A query is being answered. -/
  | searching
  /-- An entry has been chosen, and its details are being shown. -/
  | selected
  /-- There is nothing to search; the session can only be dismissed. -/
  | inert
  | closed
deriving DecidableEq, Inhabited

namespace Phase

/-- The name of a phase. -/
def name : Phase → Text
  | loading => "loading"
  | ready => "ready"
  | searching => "searching"
  | selected => "selected"
  | inert => "inert"
  | closed => "closed"

end Phase

namespace Limit

/-- The limit that a setting stands for: an integer, a truth value as `0` or `1`, or nothing
at all for no limit. -/
def ofValue? : Value → Option Limit
  | .null => some none
  | .int n => some (some n)
  | .bool b => some (some (if b then 1 else 0))
  | _ => none

end Limit

/-- The settings of a session, as they are configured. -/
structure SessionSettings where
  displayLimit : Value
  threshold : Value
  minMatchLength : Value
deriving Inhabited

/-- What is wrong with a setting that is used. -/
inductive SessionError where
  | search (error : SettingError)
  | limitNotInteger

namespace SessionError

/-- The wording of the errors. -/
def message : SessionError → Text
  | search e => e.message
  | limitNotInteger => "slice indices must be integers or None or have an __index__ method"

/-- Whether a setting is of the wrong kind, and not only out of range. -/
def isWrongKind : SessionError → Bool
  | search e => e.isWrongKind
  | limitNotInteger => true

end SessionError

/-- A search session. -/
structure Session where
  settings : SessionSettings
  rendering : Rendering
  phase : Phase
  /-- Whether the session has been given up from outside. -/
  cancelled : Bool
  /-- Whether a load has begun and not settled. -/
  pending : Bool
  entries : List Entry
  index : Option Index
  query : Text
  rows : List Row
  /-- The entries behind the rows. -/
  view : List Entry
deriving Inhabited

namespace Session

/-- A session that has not begun. -/
def fresh (settings : SessionSettings) (rendering : Rendering) : Session :=
  { settings, rendering, phase := .loading, cancelled := false, pending := false
    entries := [], index := none, query := [], rows := [], view := [] }

/-- Whether a session is over, or has been given up. -/
def isClosed (s : Session) : Bool := s.phase == .closed || s.cancelled

/-- What an event does. -/
structure Step where
  session : Session
  calls : List SurfaceCall := []
  logs : List Log.Record := []
  error : Option SessionError := none
  /-- The entry that a selection gives back. -/
  chosen : Option Entry := none

/-- An event that does nothing. -/
def stay (s : Session) : Step := { session := s }

/-! ### Rows -/

/-- Shows rows. -/
def showRows (s : Session) (rows : List Row) : Step :=
  { session := { s with rows }, calls := [.setRows rows] }

/-- Shows entries within the limit of the settings. -/
def showEntries (s : Session) (entries : List Entry) : Step :=
  match Limit.ofValue? s.settings.displayLimit with
  | none => { session := s, error := some .limitNotInteger }
  | some limit =>
    let view := limit.apply entries
    { s with view }.showRows (view.map Row.ofEntry)

/-- Ends the loading with a single row that says why there is nothing to search. -/
def becomeInert (s : Session) (row : Row) : Step :=
  let step := { s with phase := .inert }.showRows [row]
  { step with calls := .setBusy false :: step.calls }

/-! ### Loading -/

/-- Begins a load, unless the session is over. -/
def begin (s : Session) : Step :=
  if s.isClosed then s.stay
  else
    let step := { s with phase := .loading, pending := true }.showRows [Row.loading]
    { step with calls := .setBusy true :: step.calls }

/-- The index over the entries of a session. -/
def buildIndex (s : Session) (entries : List Entry) : Except SettingError Index :=
  Index.build entries Index.defaultKeys s.settings.threshold s.settings.minMatchLength

/-- Takes up the entries of a load: indexes them and shows them. The entries are kept even if
a setting of the search is wrong. -/
def takeUp (s : Session) (entries : List Entry) : Step :=
  let s := { s with entries }
  match s.buildIndex entries with
  | .error e => { session := s, error := some (.search e) }
  | .ok index =>
    let step := { s with index := some index, phase := .ready }.showEntries entries
    { step with
      calls := .setBusy false :: step.calls
      logs := Log.debug (indexedMessage entries) :: step.logs }
where
  /-- Reports the size of the index. -/
  indexedMessage (entries : List Entry) : Text :=
    "Indexed " ++ Text.ofNat entries.length ++ " entries on " ++ Text.join ", " Index.defaultKeys

/-- The record of a parsed text. -/
def parsedRecord (texts : List Text) (entries : List Entry) : Log.Record :=
  Log.debug ("Extracted " ++ Text.ofNat entries.length ++ " entries from " ++
    Text.ofNat (Text.join ['\n'] texts).length ++ " characters")

/-- Settles a load whose texts have arrived. -/
def settleTexts (s : Session) (texts : List Text) : Step :=
  let entries := Entry.ofTexts texts
  let step := if entries.isEmpty then s.becomeInert Row.noEntries else s.takeUp entries
  { step with logs := parsedRecord texts entries :: step.logs }

/-- Settles a load that has failed. -/
def settleFailure (s : Session) (record : Log.Record) (message : Text) : Step :=
  let step := s.becomeInert (Row.loadFailed message)
  { step with logs := record :: step.logs }

/-- Settles the pending load. If the session is over, the outcome is discarded. -/
def settle (s : Session) (outcome : LoadOutcome) : Step :=
  if !s.pending then s.stay
  else
    let s := { s with pending := false }
    if s.isClosed then
      match outcome with
      | .texts _ =>
        { session := s
          logs := [Log.debug "Session closed before documentation arrived, discarding it"] }
      | .unavailable _ | .broken _ => s.stay
    else
      match outcome with
      | .texts texts => s.settleTexts texts
      | .unavailable message =>
        s.settleFailure (Log.warning ("Documentation fetch failed: " ++ message)) message
      | .broken message =>
        s.settleFailure (Log.error "Unexpected error while loading documentation") message

/-- Two steps as one. -/
def Step.andThen (step : Step) (next : Session → Step) : Step :=
  match step.error with
  | some _ => step
  | none =>
    let after := next step.session
    { after with calls := step.calls ++ after.calls, logs := step.logs ++ after.logs }

/-- Begins a load that settles at once. -/
def start (s : Session) (outcome : LoadOutcome) : Step :=
  s.begin.andThen fun s => s.settle outcome

/-! ### Searching -/

/-- The entries that answer a query: all of them if it is blank, else its matches. -/
def answers (s : Session) (index : Index) (query : Text) : List Entry :=
  if query.trim.isEmpty then s.entries
  else (index.ranking query.trim).map Match.entry

/-- Answers a change of the query. -/
def changeQuery (s : Session) (text : Text) : Step :=
  match s.index with
  | none => s.stay
  | some index =>
    if s.phase != .ready then s.stay
    else
      let s := { s with phase := .searching, query := text }
      let found := s.answers index text
      let step :=
        if found.isEmpty && !text.trim.isEmpty then
          { s with view := [] }.showRows [Row.noMatches]
        else s.showEntries found
      step.andThen fun s => { s with phase := .ready }.stay

/-! ### Ending -/

/-- Closes the surface and lets go of everything. -/
def dismiss (s : Session) : Step :=
  if s.phase = .closed then s.stay
  else
    { session := { s with
        cancelled := true, phase := .closed, index := none, entries := [], view := [], rows := [] }
      calls := [.close] }

/-- Gives a session up without touching the surface. -/
def cancel (s : Session) : Step := { session := { s with cancelled := true } }

/-- The entry that a row selects: the first one in view that has its name. -/
def selectable? (s : Session) (row : Row) : Option Entry :=
  if s.phase != .ready || row.placeholder then none
  else s.view.find? fun e => e.name == row.label

/-- Chooses an entry and shows its details. -/
def choose (s : Session) (e : Entry) : Step :=
  { session := { s with phase := .selected }, calls := [.showDetail (s.rendering.detail e)] }

/-- Whether selecting a row finds no entry although entries could be selected. -/
def missesEntry (s : Session) (row : Row) : Bool :=
  s.phase == .ready && !row.placeholder && (s.selectable? row).isNone

/-- Selects a row: its details are shown, the session ends, and the entry is given back. A row
without an entry does nothing. -/
def select (s : Session) (row : Row) : Step :=
  match s.selectable? row with
  | some e => { (s.choose e).andThen dismiss with chosen := some e }
  | none =>
    { session := s
      logs := if s.missesEntry row then
        [Log.debug ("No displayed entry named '" ++ row.label ++ "'")] else [] }

end Session

end NativeFinder
