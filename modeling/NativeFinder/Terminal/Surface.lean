import NativeFinder.Detail.Panel
import NativeFinder.Listing.Table
import NativeFinder.Session.Surface

/-!
# The terminal as a surface

On a terminal, a list of rows is printed as a table whenever it is replaced, except while the
busy notice is shown. The terminal keeps the rows, since a row is selected by the number that
the table gives it.
-/

namespace NativeFinder

/-- What the terminal shows. -/
inductive ScreenEvent where
  | busyShown
  | busyHidden
  | table (table : RowTable)
  | panel (panel : Panel)
  | markup (text : Text)
deriving DecidableEq, Inhabited

/-- The state of the terminal. -/
structure TerminalSurface where
  rows : List Row
  busy : Bool
  closed : Bool
deriving DecidableEq, Inhabited

namespace TerminalSurface

/-- A terminal that shows nothing yet. -/
def fresh : TerminalSurface := { rows := [], busy := false, closed := false }

/-- The notice while the documentation is loading. -/
def busyNotice : Text := "Loading API documentation..."

/-- Hides the busy notice if it is shown. -/
def hideBusy (t : TerminalSurface) : TerminalSurface × List ScreenEvent :=
  if t.busy then ({ t with busy := false }, [.busyHidden]) else (t, [])

/-- Answers a call of a session. Details are shown if their markup can be read. -/
def answer (t : TerminalSurface) : SurfaceCall →
    Except MarkupError (TerminalSurface × List ScreenEvent)
  | .setBusy true =>
    .ok (if t.busy then (t, []) else ({ t with busy := true }, [.busyShown]))
  | .setBusy false => .ok t.hideBusy
  | .setRows rows =>
    .ok ({ t with rows }, if t.busy then [] else [.table (RowTable.ofRows rows)])
  | .showDetail d => d.panel.map fun panel => (t, [.panel panel])
  | .close =>
    let (t, events) := t.hideBusy
    .ok ({ t with closed := true }, events)

/-- Answers several calls in order, up to the first one that fails. -/
def answerAll (t : TerminalSurface) : List SurfaceCall →
    TerminalSurface × List ScreenEvent × Option MarkupError
  | [] => (t, [], none)
  | call :: rest =>
    match t.answer call with
    | .error e => (t, [], some e)
    | .ok (t, events) =>
      let (t, more, error) := answerAll t rest
      (t, events ++ more, error)

/-- The rows that can be selected. -/
def selectable (t : TerminalSurface) : List Row := t.rows.filter fun r => !r.placeholder

/-- The row that the table shows with number `n`. -/
def numberedRow? (t : TerminalSurface) (n : Int) : Option Row :=
  match n with
  | .ofNat (k + 1) => t.selectable[k]?
  | _ => none

end TerminalSurface

end NativeFinder
