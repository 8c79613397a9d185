import NativeFinder.Session.Basic

/-!
# The launcher

The launcher starts sessions, each on a surface of its own, and keeps at most one of them
alive: a launch dismisses the session launched before. Abandoned sessions stay on the list,
since their loads may still settle; every event names the session that it is for.
-/

namespace NativeFinder

/-- The sessions launched so far. -/
structure Launcher where
  /-- The number of launches. -/
  generation : Nat
  /-- The place of the newest session in the list. -/
  active : Option Nat
  sessions : List Session
deriving Inhabited

namespace Launcher

/-- A launcher that has launched nothing. -/
def fresh : Launcher := { generation := 0, active := none, sessions := [] }

/-- What an event does: the calls are marked with the session that made them. -/
structure Step where
  launcher : Launcher
  calls : List (Nat × SurfaceCall) := []
  logs : List Log.Record := []
  error : Option SessionError := none

/-- Lets session `k` answer an event. -/
def act (l : Launcher) (k : Nat) (event : Session → Session.Step) : Step :=
  match l.sessions[k]? with
  | none => { launcher := l }
  | some s =>
    let step := event s
    { launcher := { l with sessions := l.sessions.set k step.session }
      calls := step.calls.map fun call => (k, call)
      logs := step.logs
      error := step.error }

/-- Dismisses the newest session. -/
def dismissActive (l : Launcher) : Step :=
  match l.active with
  | none => { launcher := l }
  | some k => l.act k Session.dismiss

/-- Puts a session at the end of the list and begins it. -/
def add (l : Launcher) (s : Session) : Step :=
  let k := l.sessions.length
  let l : Launcher :=
    { generation := l.generation + 1, active := some k, sessions := l.sessions ++ [s] }
  let step := l.act k Session.begin
  { step with
    logs := Log.debug ("Starting search session #" ++ Text.ofNat l.generation) :: step.logs }

/-- Launches a session in place of the newest one. -/
def launch (l : Launcher) (s : Session) : Step :=
  let before := l.dismissActive
  let step := before.launcher.add s
  { step with calls := before.calls ++ step.calls, logs := before.logs ++ step.logs }

/-- Settles the load of a session. -/
def settle (l : Launcher) (k : Nat) (outcome : LoadOutcome) : Step :=
  l.act k fun s => s.settle outcome

end Launcher

end NativeFinder
