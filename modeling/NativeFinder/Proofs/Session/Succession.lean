import NativeFinder.Proofs.Session.History
import NativeFinder.Session.Launcher

/-!
# At most one session is alive

A launcher dismisses its newest session when it launches the next one, so all the older ones are
over, and a session that is over makes no calls whatever it still meets with: this is
`run_leaves_one_alive`. The events are launches and the events of any session launched so far, in
any order; a load may settle long after its session was superseded.

The invariant has a part for each session and a part for the launcher. `Session.ClosesWith` says
that a session is closed, and then over, exactly when it has closed its surface; `Ordered` says so
of every session, that the newest one is active, and that the older ones are closed.
-/

namespace NativeFinder

namespace Session

/-- A session **closes with** its surface: it is closed when it has called for the close, and then
it is over. -/
structure ClosesWith (s : Session) (calls : List SurfaceCall) : Prop where
  close_mem_iff : .close ∈ calls ↔ s.phase = .closed
  isOver : s.phase = .closed → s.IsOver

variable {s : Session} {calls : List SurfaceCall}

theorem closesWith_fresh (settings : SessionSettings) (rendering : Rendering) :
    (fresh settings rendering).ClosesWith [] :=
  ⟨by simp [fresh], fun h => by cases h⟩

/-- No event parts a session from its surface. -/
theorem ClosesWith.handle (h : s.ClosesWith calls) (e : Event) :
    (s.handle e).session.ClosesWith (calls ++ (s.handle e).calls) := by
  by_cases hp : s.phase = .closed
  · obtain ⟨hover, hcalls⟩ := (h.isOver hp).handle e
    rw [hcalls, List.append_nil]
    exact ⟨by simp [h.close_mem_iff, hp, hover.phase], fun _ => hover⟩
  · rcases handle_cases s e with hstep | ⟨-, hsession, hclose⟩
    · have hp' : (s.handle e).session.phase ≠ .closed := fun hc => hp (hstep.phase hc)
      exact ⟨by simp [h.close_mem_iff, hp, hp', hstep.close_not_mem], fun hc => absurd hc hp'⟩
    · rw [hsession]
      exact ⟨by simp [hclose, released], fun _ => isOver_released s⟩

/-- A dismissal leaves a session closed. -/
theorem phase_dismiss (s : Session) : (s.handle .dismiss).session.phase = .closed := by
  by_cases hp : s.phase = .closed
  · rw [Session.handle, dismiss_of_closed hp]
    exact hp
  · rw [Session.handle, dismiss_of_phase_ne hp]
    rfl

end Session

namespace Launcher

/-! ### Events -/

/-- What a launcher can meet with. -/
inductive Event where
  | launch (settings : SessionSettings) (rendering : Rendering)
  /-- Session `k` meets with an event. -/
  | act (k : Nat) (event : Session.Event)

/-- The answer of a launcher to an event. -/
def handle (l : Launcher) : Event → Step
  | .launch settings rendering => l.launch (Session.fresh settings rendering)
  | .act k event => l.act k fun s => s.handle event

/-- The answer of a launcher to a history. -/
def run (l : Launcher) (events : List Event) : Run Launcher (Nat × SurfaceCall) :=
  .ofEvents (fun l e => ⟨(l.handle e).launcher, (l.handle e).calls⟩) l events

variable {l : Launcher}

@[simp]
theorem run_nil : l.run [] = ⟨l, []⟩ := rfl

@[simp]
theorem state_run_cons (e : Event) (es : List Event) :
    (l.run (e :: es)).state = ((l.handle e).launcher.run es).state := rfl

@[simp]
theorem calls_run_cons (e : Event) (es : List Event) :
    (l.run (e :: es)).calls = (l.handle e).calls ++ ((l.handle e).launcher.run es).calls := rfl

/-- What every event of a history preserves holds at its end, of all the calls made. -/
theorem run_invariant (R : Launcher → List (Nat × SurfaceCall) → Prop) {es : List Event}
    (hstep : ∀ e ∈ es, ∀ l calls, R l calls → R (l.handle e).launcher (calls ++ (l.handle e).calls))
    (h : R l []) : R (l.run es).state (l.run es).calls :=
  Run.invariant R hstep h

/-- The settings of the launches in a history, in order. -/
def launches (events : List Event) : List SessionSettings :=
  events.filterMap fun
    | .launch settings _ => some settings
    | .act _ _ => none

/-- The calls on the surface of session `k`. -/
def callsOn (k : Nat) (calls : List (Nat × SurfaceCall)) : List SurfaceCall :=
  (calls.filter fun call => call.1 = k).map Prod.snd

@[simp]
theorem callsOn_nil (k : Nat) : callsOn k [] = [] := rfl

@[simp]
theorem callsOn_append (k : Nat) (calls calls' : List (Nat × SurfaceCall)) :
    callsOn k (calls ++ calls') = callsOn k calls ++ callsOn k calls' := by
  simp [callsOn]

theorem callsOn_map_self (k : Nat) (calls : List SurfaceCall) :
    callsOn k (calls.map fun call => (k, call)) = calls := by
  simp [callsOn, List.filter_map, Function.comp_def]

theorem callsOn_map_of_ne {j k : Nat} (h : j ≠ k) (calls : List SurfaceCall) :
    callsOn k (calls.map fun call => (j, call)) = [] := by
  simp [callsOn, List.filter_map, Function.comp_def, h]

/-! ### One session acts -/

variable {k : Nat} {event : Session → Session.Step}

theorem act_of_getElem?_eq_none (h : l.sessions[k]? = none) :
    l.act k event = { launcher := l } := by
  rw [act, h]

theorem act_of_getElem?_eq_some {s : Session} (h : l.sessions[k]? = some s) :
    (l.act k event).launcher = { l with sessions := l.sessions.set k (event s).session } ∧
      (l.act k event).calls = (event s).calls.map fun call => (k, call) := by
  rw [act, h]
  exact ⟨rfl, rfl⟩

/-- When a session acts, the launcher launches nothing. -/
theorem launcher_act (l : Launcher) (k : Nat) (event : Session → Session.Step) :
    (l.act k event).launcher.generation = l.generation ∧
      (l.act k event).launcher.active = l.active ∧
      (l.act k event).launcher.sessions.length = l.sessions.length := by
  cases hk : l.sessions[k]? with
  | none =>
    rw [act_of_getElem?_eq_none hk]
    exact ⟨rfl, rfl, rfl⟩
  | some s =>
    rw [(act_of_getElem?_eq_some hk).1]
    exact ⟨rfl, rfl, List.length_set⟩

/-- Only the session that acts makes calls. -/
theorem callsOn_act_of_ne {j : Nat} (h : k ≠ j) : callsOn j (l.act k event).calls = [] := by
  cases hk : l.sessions[k]? with
  | none =>
    rw [act_of_getElem?_eq_none hk]
    rfl
  | some s => rw [(act_of_getElem?_eq_some hk).2, callsOn_map_of_ne h]

/-- **A session after one has acted**: it is the one that did, or as it was. -/
theorem act_cases {j : Nat} {t : Session} (h : (l.act k event).launcher.sessions[j]? = some t) :
    (k ≠ j ∧ l.sessions[j]? = some t) ∨
      ∃ s, k = j ∧ l.sessions[k]? = some s ∧ t = (event s).session ∧
        callsOn k (l.act k event).calls = (event s).calls := by
  cases hk : l.sessions[k]? with
  | none =>
    rw [act_of_getElem?_eq_none hk] at h
    refine .inl ⟨?_, h⟩
    rintro rfl
    simp [hk] at h
  | some s =>
    obtain ⟨hlauncher, hcalls⟩ : (l.act k event).launcher = _ ∧ (l.act k event).calls = _ :=
      act_of_getElem?_eq_some hk
    rw [hlauncher] at h
    by_cases hkj : k = j
    · subst hkj
      have hlt : k < l.sessions.length := (List.getElem?_eq_some_iff.mp hk).1
      have ht : (event s).session = t := by simpa [hlt] using h
      exact .inr ⟨s, rfl, rfl, ht.symm, by rw [hcalls, callsOn_map_self]⟩
    · exact .inl ⟨hkj, by simpa [List.getElem?_set_ne hkj] using h⟩

/-! ### The invariant -/

/-- A launcher whose sessions are **in order**, after the calls that they have made. -/
structure Ordered (l : Launcher) (calls : List (Nat × SurfaceCall)) : Prop where
  generation : l.generation = l.sessions.length
  active : ∀ k, l.active = some k ↔ k + 1 = l.sessions.length
  closesWith : ∀ (k : Nat) (s : Session), l.sessions[k]? = some s → s.ClosesWith (callsOn k calls)
  /-- Only the newest session may be open. -/
  closed : ∀ (k : Nat) (s : Session), l.sessions[k]? = some s → k + 1 < l.sessions.length →
    s.phase = .closed
  /-- The surface of the next session has had no calls yet. -/
  callsOn_eq_nil : ∀ k, l.sessions.length ≤ k → callsOn k calls = []

variable {calls : List (Nat × SurfaceCall)}

theorem ordered_fresh : fresh.Ordered [] where
  generation := rfl
  active := by simp [fresh]
  closesWith := by simp [fresh]
  closed := by simp [fresh]
  callsOn_eq_nil := by simp

/-- All sessions but the newest one are over. -/
theorem Ordered.isOver (h : l.Ordered calls) {s : Session} (hk : l.sessions[k]? = some s)
    (hlt : k + 1 < l.sessions.length) : s.IsOver :=
  (h.closesWith k s hk).isOver (h.closed k s hk hlt)

theorem Ordered.act (h : l.Ordered calls) (k : Nat) (e : Session.Event) :
    (l.act k fun s => s.handle e).launcher.Ordered
      (calls ++ (l.act k fun s => s.handle e).calls) := by
  obtain ⟨hgeneration, hactive, hlength⟩ := launcher_act l k fun s => s.handle e
  constructor
  case generation => rw [hgeneration, hlength, h.generation]
  case active => simpa [hactive, hlength] using h.active
  case closesWith =>
    intro j t ht
    rcases act_cases ht with ⟨hkj, hj⟩ | ⟨s, rfl, hk, rfl, hcalls⟩
    · rw [callsOn_append, callsOn_act_of_ne hkj, List.append_nil]
      exact h.closesWith j t hj
    · rw [callsOn_append, hcalls]
      exact (h.closesWith k s hk).handle e
  case closed =>
    intro j t ht hlt
    rw [hlength] at hlt
    rcases act_cases ht with ⟨-, hj⟩ | ⟨s, rfl, hk, rfl, -⟩
    · exact h.closed j t hj hlt
    · exact ((h.isOver hk hlt).handle e).1.phase
  case callsOn_eq_nil =>
    intro j hle
    rw [hlength] at hle
    rw [callsOn_append, h.callsOn_eq_nil j hle, List.nil_append]
    by_cases hkj : k = j
    · subst hkj
      rw [act_of_getElem?_eq_none (List.getElem?_eq_none hle)]
      rfl
    · exact callsOn_act_of_ne hkj

/-! ### Launching -/

theorem dismissActive_of_active_eq_none (h : l.active = none) :
    l.dismissActive = { launcher := l } := by
  rw [dismissActive, h]

theorem dismissActive_of_active_eq_some (h : l.active = some k) :
    l.dismissActive = l.act k fun s => s.handle .dismiss := by
  rw [dismissActive, h]
  rfl

theorem Ordered.dismissActive (h : l.Ordered calls) :
    l.dismissActive.launcher.Ordered (calls ++ l.dismissActive.calls) := by
  cases hk : l.active with
  | none =>
    rw [dismissActive_of_active_eq_none hk, List.append_nil]
    exact h
  | some k =>
    rw [dismissActive_of_active_eq_some hk]
    exact h.act k .dismiss

/-- Once the newest session is dismissed, all sessions are closed. -/
theorem Ordered.closed_dismissActive (h : l.Ordered calls) {s : Session}
    (hk : l.dismissActive.launcher.sessions[k]? = some s) : s.phase = .closed := by
  cases hactive : l.active with
  | none =>
    rw [dismissActive_of_active_eq_none hactive] at hk
    have hlt : k < l.sessions.length := (List.getElem?_eq_some_iff.mp hk).1
    have hnewest := (h.active (l.sessions.length - 1)).mpr (by omega)
    simp [hactive] at hnewest
  | some j =>
    have hj := (h.active j).mp hactive
    rw [dismissActive_of_active_eq_some hactive] at hk
    rcases act_cases hk with ⟨hjk, hs⟩ | ⟨t, rfl, -, rfl, -⟩
    · have hlt : k < l.sessions.length := (List.getElem?_eq_some_iff.mp hs).1
      exact h.closed k s hs (by omega)
    · exact Session.phase_dismiss t

/-- A launcher with one more session, which has not begun. -/
def push (l : Launcher) (s : Session) : Launcher :=
  { generation := l.generation + 1
    active := some l.sessions.length
    sessions := l.sessions ++ [s] }

/-- A launch dismisses the newest session and lets a new one begin. -/
theorem launch_eq (l : Launcher) (s : Session) :
    let pushed := l.dismissActive.launcher.push s
    let begun := pushed.act l.dismissActive.launcher.sessions.length fun s => s.handle .begin
    (l.launch s).launcher = begun.launcher ∧
      (l.launch s).calls = l.dismissActive.calls ++ begun.calls :=
  ⟨rfl, rfl⟩

/-- A session after a push: it is the new one, or as it was. -/
theorem push_cases {s t : Session} (h : (l.push s).sessions[k]? = some t) :
    l.sessions[k]? = some t ∨ (k = l.sessions.length ∧ t = s) := by
  have hlt : k < l.sessions.length + 1 := by
    simpa [push] using (List.getElem?_eq_some_iff.mp h).1
  rcases Nat.lt_succ_iff_lt_or_eq.mp hlt with hlt | rfl
  · exact .inl (by simpa [push, List.getElem?_append_left hlt] using h)
  · exact .inr ⟨rfl, by simpa [push, eq_comm] using h⟩

theorem Ordered.push (h : l.Ordered calls)
    (hclosed : ∀ (k : Nat) (s : Session), l.sessions[k]? = some s → s.phase = .closed)
    (settings : SessionSettings) (rendering : Rendering) :
    (l.push (Session.fresh settings rendering)).Ordered calls := by
  have hlength : (l.push (Session.fresh settings rendering)).sessions.length =
      l.sessions.length + 1 := by simp [Launcher.push]
  constructor
  case generation => rw [hlength, ← h.generation]; rfl
  case active => simp [Launcher.push, eq_comm]
  case closesWith =>
    intro k s hk
    rcases push_cases hk with hk | ⟨rfl, rfl⟩
    · exact h.closesWith k s hk
    · rw [h.callsOn_eq_nil _ (Nat.le_refl _)]
      exact Session.closesWith_fresh settings rendering
  case closed =>
    intro k s hk hlt
    rcases push_cases hk with hk | ⟨rfl, rfl⟩
    · exact hclosed k s hk
    · omega
  case callsOn_eq_nil => exact fun k hk => h.callsOn_eq_nil k (by omega)

/-- **A launch** keeps the sessions in order. -/
theorem Ordered.launch (h : l.Ordered calls) (settings : SessionSettings) (rendering : Rendering) :
    (l.launch (Session.fresh settings rendering)).launcher.Ordered
      (calls ++ (l.launch (Session.fresh settings rendering)).calls) := by
  have hpush := h.dismissActive.push (fun k s hk => h.closed_dismissActive hk) settings rendering
  obtain ⟨hlauncher, hcalls⟩ := launch_eq l (Session.fresh settings rendering)
  rw [hlauncher, hcalls, ← List.append_assoc]
  exact hpush.act _ .begin

theorem Ordered.handle (h : l.Ordered calls) (e : Event) :
    (l.handle e).launcher.Ordered (calls ++ (l.handle e).calls) := by
  cases e with
  | launch settings rendering => exact h.launch settings rendering
  | act k event => exact h.act k event

/-- **Every history** keeps the sessions in order. -/
theorem ordered_run (es : List Event) : (fresh.run es).state.Ordered (fresh.run es).calls :=
  run_invariant Ordered (fun e _ _ _ h => h.handle e) ordered_fresh

/-! ### One session for each launch -/

theorem map_settings_act (l : Launcher) (k : Nat) (e : Session.Event) :
    (l.act k fun s => s.handle e).launcher.sessions.map Session.settings =
      l.sessions.map Session.settings := by
  cases hk : l.sessions[k]? with
  | none => rw [act_of_getElem?_eq_none hk]
  | some s =>
    obtain ⟨hlt, rfl⟩ := List.getElem?_eq_some_iff.mp hk
    have hlt' : k < (l.sessions.map Session.settings).length := by simpa using hlt
    rw [(act_of_getElem?_eq_some hk).1, List.map_set, Session.settings_handle,
      ← List.getElem_map Session.settings (h := hlt'), List.set_getElem_self]

theorem map_settings_dismissActive (l : Launcher) :
    l.dismissActive.launcher.sessions.map Session.settings = l.sessions.map Session.settings := by
  cases hactive : l.active with
  | none => rw [dismissActive_of_active_eq_none hactive]
  | some k =>
    rw [dismissActive_of_active_eq_some hactive]
    exact map_settings_act l k .dismiss

theorem map_settings_launch (l : Launcher) (settings : SessionSettings) (rendering : Rendering) :
    (l.launch (Session.fresh settings rendering)).launcher.sessions.map Session.settings =
      l.sessions.map Session.settings ++ [settings] := by
  rw [(launch_eq l _).1, map_settings_act, push, List.map_append, map_settings_dismissActive]
  rfl

/-- The sessions of a launcher are those launched, in order. -/
theorem map_settings_run (l : Launcher) (es : List Event) :
    (l.run es).state.sessions.map Session.settings =
      l.sessions.map Session.settings ++ launches es := by
  induction es generalizing l with
  | nil => simp [launches]
  | cons e es ih =>
    rw [state_run_cons, ih]
    cases e with
    | launch settings rendering =>
      rw [handle, map_settings_launch, List.append_assoc]
      rfl
    | act k event =>
      rw [handle, map_settings_act]
      rfl

/-! ### Superseded sessions -/

/-- Session `k` is over. -/
def IsOverAt (l : Launcher) (k : Nat) : Prop := ∃ s, l.sessions[k]? = some s ∧ s.IsOver

/-- Whichever session acts, one that is over stays so and makes no calls. -/
theorem IsOverAt.act (h : l.IsOverAt k) (j : Nat) (e : Session.Event) :
    (l.act j fun s => s.handle e).launcher.IsOverAt k ∧
      callsOn k (l.act j fun s => s.handle e).calls = [] := by
  obtain ⟨s, hk, hover⟩ := h
  have hlt : k < (l.act j fun s => s.handle e).launcher.sessions.length := by
    rw [(launcher_act l j _).2.2]
    exact (List.getElem?_eq_some_iff.mp hk).1
  have ht := List.getElem?_eq_getElem hlt
  rcases act_cases ht with ⟨hjk, hs⟩ | ⟨t, rfl, hs, hsession, hcalls⟩
  · obtain rfl := Option.some.inj (hk.symm.trans hs)
    exact ⟨⟨_, ht, hover⟩, callsOn_act_of_ne hjk⟩
  · obtain rfl := Option.some.inj (hk.symm.trans hs)
    obtain ⟨hover', hnone⟩ := hover.handle e
    exact ⟨⟨_, ht, hsession ▸ hover'⟩, hcalls.trans hnone⟩

theorem IsOverAt.push (h : l.IsOverAt k) (s : Session) : (l.push s).IsOverAt k := by
  obtain ⟨t, hk, hover⟩ := h
  have hlt : k < l.sessions.length := (List.getElem?_eq_some_iff.mp hk).1
  exact ⟨t, by rw [Launcher.push, List.getElem?_append_left hlt, hk], hover⟩

/-- After the newest session is dismissed, a launch makes no calls on a session that is over. -/
theorem IsOverAt.launch (h : l.dismissActive.launcher.IsOverAt k) (settings : SessionSettings)
    (rendering : Rendering) :
    (l.launch (Session.fresh settings rendering)).launcher.IsOverAt k ∧
      callsOn k (l.launch (Session.fresh settings rendering)).calls =
        callsOn k l.dismissActive.calls := by
  obtain ⟨hlauncher, hcalls⟩ := launch_eq l (Session.fresh settings rendering)
  obtain ⟨hover, hnone⟩ := (h.push (Session.fresh settings rendering)).act
    l.dismissActive.launcher.sessions.length .begin
  rw [hlauncher, hcalls, callsOn_append, hnone, List.append_nil]
  exact ⟨hover, rfl⟩

theorem IsOverAt.dismissActive (h : l.IsOverAt k) :
    l.dismissActive.launcher.IsOverAt k ∧ callsOn k l.dismissActive.calls = [] := by
  cases hactive : l.active with
  | none =>
    rw [dismissActive_of_active_eq_none hactive]
    exact ⟨h, rfl⟩
  | some j =>
    rw [dismissActive_of_active_eq_some hactive]
    exact h.act j .dismiss

theorem IsOverAt.handle (h : l.IsOverAt k) (e : Event) :
    (l.handle e).launcher.IsOverAt k ∧ callsOn k (l.handle e).calls = [] := by
  cases e with
  | launch settings rendering =>
    obtain ⟨hover, hcalls⟩ := h.dismissActive
    exact (hover.launch settings rendering).imp_right (·.trans hcalls)
  | act j event => exact h.act j event

/-- **A session that is over makes no calls**, whatever its launcher meets with. -/
theorem IsOverAt.callsOn_run (h : l.IsOverAt k) (es : List Event) :
    callsOn k (l.run es).calls = [] := by
  refine (run_invariant (fun l calls => l.IsOverAt k ∧ callsOn k calls = [])
    (fun e _ l calls hl => ?_) ⟨h, rfl⟩).2
  obtain ⟨hover, hcalls⟩ := hl.1.handle e
  exact ⟨hover, by rw [callsOn_append, hl.2, hcalls]; rfl⟩

/-- The dismissal of the newest session ends it, and closes its surface if it is open. -/
theorem Ordered.isOverAt_dismissActive (h : l.Ordered calls) (hactive : l.active = some k) :
    l.dismissActive.launcher.IsOverAt k ∧
      callsOn k l.dismissActive.calls = if .close ∈ callsOn k calls then [] else [.close] := by
  have hlt : k < (l.act k fun s => s.handle .dismiss).launcher.sessions.length := by
    have hnewest := (h.active k).mp hactive
    rw [(launcher_act l k _).2.2]
    omega
  have ht := List.getElem?_eq_getElem hlt
  rw [dismissActive_of_active_eq_some hactive]
  rcases act_cases ht with ⟨hne, -⟩ | ⟨s, -, hk, hsession, hcalls⟩
  · exact absurd rfl hne
  · have hs := h.closesWith k s hk
    rw [hcalls]
    by_cases hp : s.phase = .closed
    · obtain ⟨hover, hnone⟩ := (hs.isOver hp).handle .dismiss
      rw [if_pos (hs.close_mem_iff.mpr hp)]
      exact ⟨⟨_, ht, hsession ▸ hover⟩, hnone⟩
    · rw [Session.handle, Session.dismiss_of_phase_ne hp] at hsession ⊢
      rw [if_neg (mt hs.close_mem_iff.mp hp)]
      exact ⟨⟨_, ht, hsession ▸ Session.isOver_released s⟩, rfl⟩

/-- **A session that is superseded** gets one more call, the close, if it has not had it. -/
theorem Ordered.callsOn_run_launch (h : l.Ordered calls) (hactive : l.active = some k)
    (settings : SessionSettings) (rendering : Rendering) (later : List Event) :
    callsOn k (l.run (.launch settings rendering :: later)).calls =
      if .close ∈ callsOn k calls then [] else [.close] := by
  obtain ⟨hover, hcalls⟩ := h.isOverAt_dismissActive hactive
  obtain ⟨hover', hcalls'⟩ := hover.launch settings rendering
  rw [calls_run_cons, callsOn_append]
  exact (congrArg _ (hover'.callsOn_run later)).trans
    ((List.append_nil _).trans (hcalls'.trans hcalls))

/-- **One session at most is alive**: after any history there is one session for each launch, the
newest one is active, and every older one is over; and the surface of a session that is superseded
gets at most one more call, the close that it has not had yet, whatever comes later. -/
theorem run_leaves_one_alive (es : List Event) :
    let r := fresh.run es
    r.state.generation = (launches es).length ∧
      r.state.sessions.map Session.settings = launches es ∧
      (∀ k, r.state.active = some k ↔ k + 1 = r.state.generation) ∧
      (∀ (k : Nat) (s : Session), r.state.sessions[k]? = some s → k + 1 < r.state.generation →
        s.IsOver) ∧
      ∀ k settings rendering later, r.state.active = some k →
        callsOn k (r.state.run (.launch settings rendering :: later)).calls =
          if .close ∈ callsOn k r.calls then [] else [.close] := by
  intro r
  have h : r.state.Ordered r.calls := ordered_run es
  have hsettings : r.state.sessions.map Session.settings = launches es := map_settings_run fresh es
  refine ⟨?_, hsettings, fun k => ?_, fun k s hk hlt => h.isOver hk (h.generation ▸ hlt),
    fun k settings rendering later hk => h.callsOn_run_launch hk settings rendering later⟩
  · rw [h.generation, ← hsettings, List.length_map]
  · rw [h.generation]
    exact h.active k

/-- A load that settles after its session was superseded, by a launch that closed the surface. -/
theorem run_leaves_one_alive_of_relaunch :
    let r := fresh.run [.launch .standard .console, .act 0 .cancel]
    r.state.active = some 0 ∧
      callsOn 0
          (r.state.run [.launch .standard .console, .act 0 (.settle (.broken "late"))]).calls =
        [.close] :=
  ⟨rfl, (run_leaves_one_alive _).2.2.2.2 0 _ _ _ rfl⟩

end Launcher

end NativeFinder
