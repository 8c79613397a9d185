import NativeFinder.Log
import NativeFinder.Source.Web

/-!
# Loads from the web

Every address of a load has a **transfer** of its own, which makes its requests one after the
other and then settles. The transfers take their steps in whatever order the answers come in.
Nothing that fails ends the load: it is over when all transfers have settled, and then it comes
to all texts in the order of the addresses, or to the first fault in that order. Only an
interruption by the user ends it at once.

A **schedule** says whose turn it is: it lists the places of the transfers in the order in which
they take their steps. `WebLoad.run` takes it from the turns of the web.
-/

namespace NativeFinder

/-- How a load of documentation ends. -/
inductive Load where
  | texts (texts : List Text)
  | failed (failure : SourceFailure)
  | interrupted
deriving DecidableEq, Inhabited

/-! ### Transfers -/

/-- How far a transfer has come. -/
inductive TransferStage where
  /-- These requests are still to be made. -/
  | underway (ahead : List Text)
  | settled
deriving DecidableEq, Inhabited

/-- One address of a load. -/
structure Transfer where
  source : Value
  stage : TransferStage
  /-- What comes of it when it settles. -/
  result : Retrieval
deriving Inhabited

namespace Transfer

/-- A transfer that has not begun. -/
def ofFetch (source : Value) (fetch : Fetch) : Transfer :=
  { source, stage := .underway (fetch.visits.map Visit.address), result := fetch.result }

/-- What a transfer comes to, with its address. -/
def outcome (t : Transfer) : Value × Retrieval := (t.source, t.result)

/-- The requests that are still to be made. -/
def ahead (t : Transfer) : List Text :=
  match t.stage with
  | .underway ahead => ahead
  | .settled => []

/-- Whether a transfer has come to its end. -/
def isSettled (t : Transfer) : Bool := t.stage == .settled

/-- The next step of a transfer: it makes its next request, or settles if there is none. -/
def advance (t : Transfer) : Transfer :=
  match t.stage with
  | .underway (_ :: ahead) => { t with stage := .underway ahead }
  | .underway [] | .settled => { t with stage := .settled }

end Transfer

/-! ### Loads under way -/

/-- A load under way: its transfers in the order of the addresses, and the requests that they have
made. -/
structure Gathering where
  transfers : List Transfer
  requests : List Text
deriving Inhabited

namespace Gathering

/-- A load that begins. -/
def start (transfers : List Transfer) : Gathering := { transfers, requests := [] }

/-- What comes of a load whose transfers have settled: the texts, or the first fault in the order of
the addresses. -/
def collect : List (Value × Retrieval) → Load
  | [] => .texts []
  | (_, .text text) :: rest =>
    match collect rest with
    | .texts texts => .texts (text :: texts)
    | other => other
  | (address, .fault cause) :: _ => .failed ⟨address.toText, cause⟩
  | (_, .interrupted) :: _ => .interrupted

/-- Whether the user has interrupted the load. -/
def isInterrupted (g : Gathering) : Bool :=
  g.transfers.any fun t => t.isSettled && t.result == .interrupted

/-- What the load comes to, once it is over. -/
def result? (g : Gathering) : Option Load :=
  if g.isInterrupted then some .interrupted
  else if g.transfers.all Transfer.isSettled then some (collect (g.transfers.map Transfer.outcome))
  else none

/-- The transfer at a place takes its next step, unless the load is over. -/
def advance (g : Gathering) (place : Nat) : Gathering :=
  if g.result?.isSome then g
  else
    { transfers := g.transfers.modify place Transfer.advance
      requests := g.requests ++ (g.transfers[place]?.bind fun t => t.ahead.head?).toList }

/-- The load when its transfers have taken their steps in the order of a schedule. -/
def run (g : Gathering) (schedule : List Nat) : Gathering := schedule.foldl advance g

end Gathering

/-! ### Whole loads -/

/-- A load from the web, with the requests in the order in which they were made. -/
structure WebLoad where
  result : Load
  requests : List Text
  logs : List Log.Record
deriving Inhabited

namespace WebLoad

/-- How many redirections are followed. -/
def redirectionLimit : Nat := 20

/-- The records of a load of some addresses. Without addresses there is nothing to report. -/
def records (count : Nat) (result : Load) : List Log.Record :=
  if count = 0 then []
  else
    Log.debug ("Fetching " ++ Text.ofNat count ++ " documentation sources") ::
      match result with
      | .texts texts => [fetchedRecord texts]
      | _ => []
where
  /-- The record of a load that has all texts. -/
  fetchedRecord (texts : List Text) : Log.Record :=
    Log.debug ("Fetched " ++
      Text.ofNat (texts.foldl (fun n text => n + text.length) 0) ++ " characters")

/-- Loads by transfers that take their steps in the order of a schedule. A load that is left
before it is over is interrupted. -/
def conduct (transfers : List Transfer) (schedule : List Nat) : WebLoad :=
  let g := (Gathering.start transfers).run schedule
  let result := g.result?.getD .interrupted
  { result, requests := g.requests, logs := records transfers.length result }

/-- The places of fetches in the order of the turns at which they take their steps; those of one
turn in the order of the load. -/
def scheduleOf (fetches : List Fetch) : List Nat :=
  let steps := fetches.zipIdx.flatMap fun (fetch, place) =>
    fetch.turns.map fun turn => (turn, place)
  (steps.mergeSort fun a b => a.1 ≤ b.1).map Prod.snd

/-- Loads all addresses. -/
def run (web : Web) (redirections : Option Nat) (addresses : List Value) : WebLoad :=
  let found := addresses.map fun address => (address, Fetch.ofSource web redirections address)
  conduct (found.map fun f => Transfer.ofFetch f.1 f.2) (scheduleOf (found.map Prod.snd))

end WebLoad

end NativeFinder
