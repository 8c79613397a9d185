import NativeFinder.Proofs.Search.Building
import NativeFinder.Session.Basic

/-!
# Histories of a session

A session answers one event after the other, in whatever order they come. `Session.run` lets it
answer a list of events and collects the calls that it makes on its surface; a list of events is
a **history**, and a state is reachable if some history leads to it from a fresh session.

What one event can do is said here once, event by event: `begin_of_not_isClosed`,
`settle_of_not_isClosed`, `changeQuery_of_ready`, `select_of_selectable?_eq_some` and
`dismiss_of_phase_ne` give the session and the calls where something happens, and the lemmas
beside them say when nothing does. Statements about whole histories follow by `run_invariant`.
-/

namespace NativeFinder

/-! ### Runs -/

/-- What a **run** comes to: the state in which it ends and the calls made on the way. -/
structure Run (State Call : Type) where
  state : State
  calls : List Call

namespace Run

variable {State Event Call : Type} {step : State → Event → Run State Call}

/-- The run of a list of events, each answered in the state that those before it left. -/
def ofEvents (step : State → Event → Run State Call) (s : State) : List Event → Run State Call
  | [] => ⟨s, []⟩
  | e :: es =>
    let first := step s e
    let rest := ofEvents step first.state es
    ⟨rest.state, first.calls ++ rest.calls⟩

@[simp]
theorem ofEvents_nil (s : State) : ofEvents step s [] = ⟨s, []⟩ := rfl

@[simp]
theorem state_ofEvents_cons (s : State) (e : Event) (es : List Event) :
    (ofEvents step s (e :: es)).state = (ofEvents step (step s e).state es).state := rfl

@[simp]
theorem calls_ofEvents_cons (s : State) (e : Event) (es : List Event) :
    (ofEvents step s (e :: es)).calls =
      (step s e).calls ++ (ofEvents step (step s e).state es).calls := rfl

theorem ofEvents_append (s : State) (es es' : List Event) :
    ofEvents step s (es ++ es') =
      ⟨(ofEvents step (ofEvents step s es).state es').state,
        (ofEvents step s es).calls ++ (ofEvents step (ofEvents step s es).state es').calls⟩ := by
  induction es generalizing s with
  | nil => rfl
  | cons e es ih =>
    rw [List.cons_append, ofEvents, ofEvents, ih]
    simp only [List.append_assoc]

/-- **Step by step**: what relates a state to the calls made so far, and goes on doing so with
every event of a list, relates the end of its run to all the calls made. -/
theorem invariant (R : State → List Call → Prop) {es : List Event}
    (hstep : ∀ e ∈ es, ∀ s calls, R s calls → R (step s e).state (calls ++ (step s e).calls))
    {s : State} {calls : List Call} (h : R s calls) :
    R (ofEvents step s es).state (calls ++ (ofEvents step s es).calls) := by
  induction es generalizing s calls with
  | nil => simpa using h
  | cons e es ih =>
    obtain ⟨he, hes⟩ := List.forall_mem_cons.mp hstep
    rw [state_ofEvents_cons, calls_ofEvents_cons, ← List.append_assoc]
    exact ih hes (he s calls h)

end Run

/-! ### Valid settings -/

/-- Settings with which no event fails: a limit that is an integer or absent, a threshold from
`0` to `1`, and a least length that is a number not below `1`. -/
structure SessionSettings.Valid (settings : SessionSettings) : Prop where
  displayLimit : ∃ limit, Limit.ofValue? settings.displayLimit = some limit
  threshold : ∃ x t, settings.threshold.toBinary64? = some x ∧ x.toRat? = some t ∧ 0 ≤ t ∧ t ≤ 1
  minMatchLength : ∃ x, settings.minMatchLength.toBinary64? = some x ∧ x.ltRat 1 = false

/-- The settings of a session for which nothing else is configured. -/
def SessionSettings.standard : SessionSettings where
  displayLimit := .int 200
  threshold := .float (.ofRat (3 / 10))
  minMatchLength := .int 2

theorem SessionSettings.valid_standard : standard.Valid where
  displayLimit := ⟨_, rfl⟩
  threshold := ⟨_, 5404319552844595 / 2 ^ 54, rfl, by decide +kernel, by decide +kernel,
    by decide +kernel⟩
  minMatchLength := ⟨_, rfl, by decide +kernel⟩

/-- With valid settings there is an index over any entries. -/
theorem SessionSettings.Valid.exists_build {settings : SessionSettings} (h : settings.Valid)
    (entries : List Entry) :
    ∃ index, Index.build entries Index.defaultKeys settings.threshold settings.minMatchLength =
      .ok index ∧ index.entries = entries :=
  Index.exists_build_defaultKeys h.threshold h.minMatchLength entries

/-- The entries that a load brings. -/
def LoadOutcome.entries : LoadOutcome → List Entry
  | .texts ts => Entry.ofTexts ts
  | .unavailable _ | .broken _ => []

namespace Session

/-! ### Events -/

/-- What a session can meet with. -/
inductive Event where
  | begin
  | settle (outcome : LoadOutcome)
  | changeQuery (text : Text)
  | select (row : Row)
  | dismiss
  | cancel
deriving DecidableEq

/-- The answer of a session to an event. -/
def handle (s : Session) : Event → Step
  | .begin => s.begin
  | .settle outcome => s.settle outcome
  | .changeQuery text => s.changeQuery text
  | .select row => s.select row
  | .dismiss => s.dismiss
  | .cancel => s.cancel

/-- The answer of a session to a history. -/
def run (s : Session) (events : List Event) : Run Session SurfaceCall :=
  .ofEvents (fun s e => ⟨(s.handle e).session, (s.handle e).calls⟩) s events

variable {s : Session}

@[simp]
theorem run_nil : s.run [] = ⟨s, []⟩ := rfl

@[simp]
theorem state_run_cons (e : Event) (es : List Event) :
    (s.run (e :: es)).state = ((s.handle e).session.run es).state := rfl

@[simp]
theorem calls_run_cons (e : Event) (es : List Event) :
    (s.run (e :: es)).calls = (s.handle e).calls ++ ((s.handle e).session.run es).calls := rfl

theorem run_cons (e : Event) (es : List Event) :
    s.run (e :: es) =
      ⟨((s.handle e).session.run es).state,
        (s.handle e).calls ++ ((s.handle e).session.run es).calls⟩ := rfl

theorem run_append (es es' : List Event) :
    s.run (es ++ es') =
      ⟨((s.run es).state.run es').state, (s.run es).calls ++ ((s.run es).state.run es').calls⟩ :=
  Run.ofEvents_append s es es'

theorem state_run_append (es es' : List Event) :
    (s.run (es ++ es')).state = ((s.run es).state.run es').state := by
  rw [run_append]

theorem calls_run_singleton (e : Event) : (s.run [e]).calls = (s.handle e).calls :=
  List.append_nil _

/-- What every event of a history preserves holds at its end, of all the calls made. -/
theorem run_invariant (R : Session → List SurfaceCall → Prop) {es : List Event}
    (hstep : ∀ e ∈ es, ∀ s calls, R s calls →
      R (s.handle e).session (calls ++ (s.handle e).calls))
    (h : R s []) : R (s.run es).state (s.run es).calls :=
  Run.invariant R hstep h

/-! ### Beginning -/

/-- The calls with which a session takes hold of its surface. -/
def openingCalls : List SurfaceCall := [.setBusy true, .setRows [Row.loading]]

theorem begin_of_isClosed (h : s.isClosed = true) : s.begin = s.stay := by
  simp [begin, h]

theorem begin_of_not_isClosed (h : s.isClosed = false) :
    s.begin =
      { session := { s with phase := .loading, pending := true, rows := [Row.loading] }
        calls := openingCalls } := by
  simp [begin, h, showRows, openingCalls]

/-! ### Settling -/

/-- A row that says why there is nothing to search. -/
def IsReport (row : Row) : Prop := row = Row.noEntries ∨ ∃ message, row = Row.loadFailed message

theorem settle_of_not_pending (h : s.pending = false) (outcome : LoadOutcome) :
    s.settle outcome = s.stay := by
  simp [settle, h]

/-- **A load that settles late is discarded.** -/
theorem settle_of_isClosed (h : s.isClosed = true) (outcome : LoadOutcome) :
    (s.settle outcome).session = { s with pending := false } ∧
      (s.settle outcome).calls = [] := by
  have h' : { s with pending := false }.isClosed = true := h
  cases hp : s.pending with
  | false =>
    rw [settle_of_not_pending hp]
    exact ⟨by rw [← hp]; rfl, rfl⟩
  | true => cases outcome <;> simp [settle, hp, h', stay]

/-- The session and the calls when a load has brought nothing to search. -/
theorem becomeInert_eq (row : Row) :
    s.becomeInert row =
      { session := { s with phase := .inert, rows := [row] }
        calls := [.setBusy false, .setRows [row]] } := rfl

/-- The session and the calls when a load has brought entries. -/
theorem takeUp_of_valid (hs : s.settings.Valid) (entries : List Entry) :
    ∃ index view, index.entries = entries ∧ view <+: entries ∧
      (s.takeUp entries).session =
        { s with
          phase := .ready, entries, index := some index, view, rows := view.map Row.ofEntry } ∧
      (s.takeUp entries).calls = [.setBusy false, .setRows (view.map Row.ofEntry)] := by
  obtain ⟨index, hindex, hentries⟩ := hs.exists_build entries
  obtain ⟨limit, hlimit⟩ := hs.displayLimit
  refine ⟨index, limit.apply entries, hentries, limit.apply_prefix entries, ?_⟩
  simp [takeUp, buildIndex, hindex, showEntries, hlimit, showRows]

/-- **A load that brings no entries** is reported. -/
theorem settle_of_entries_eq_nil (hl : s.pending = true) (hc : s.isClosed = false)
    {outcome : LoadOutcome} (h : outcome.entries = []) :
    ∃ row, IsReport row ∧
      (s.settle outcome).session = { s with phase := .inert, pending := false, rows := [row] } ∧
      (s.settle outcome).calls = [.setBusy false, .setRows [row]] := by
  have hc' : { s with pending := false }.isClosed = false := hc
  cases outcome with
  | texts ts =>
    have hnil : Entry.ofTexts ts = [] := h
    simp only [settle, hl, hc', settleTexts, hnil, List.isEmpty_nil, becomeInert_eq]
    exact ⟨Row.noEntries, .inl rfl, rfl, rfl⟩
  | unavailable message | broken message =>
    simp only [settle, hl, hc', settleFailure, becomeInert_eq]
    exact ⟨Row.loadFailed message, .inr ⟨message, rfl⟩, rfl, rfl⟩

/-- **Entries that a load brings** are taken up. -/
theorem settle_of_entries_ne_nil (hl : s.pending = true) (hc : s.isClosed = false)
    {outcome : LoadOutcome} (h : outcome.entries ≠ []) :
    let step := { s with pending := false }.takeUp outcome.entries
    (s.settle outcome).session = step.session ∧ (s.settle outcome).calls = step.calls ∧
      (s.settle outcome).error = step.error := by
  have hc' : { s with pending := false }.isClosed = false := hc
  cases outcome with
  | texts ts =>
    have hne : (Entry.ofTexts ts).isEmpty = false := List.isEmpty_eq_false_iff.mpr h
    simp only [settle, hl, hc', settleTexts, hne]
    exact ⟨rfl, rfl, rfl⟩
  | unavailable message | broken message => exact absurd rfl h

/-- **A load settles** in one of two ways: there is nothing to search, and a report says why; or
its entries are indexed and shown. -/
theorem settle_of_not_isClosed (hs : s.settings.Valid) (hp : s.pending = true)
    (hc : s.isClosed = false) (outcome : LoadOutcome) :
    (∃ row, IsReport row ∧
      (s.settle outcome).session =
        { s with phase := .inert, pending := false, rows := [row] } ∧
      (s.settle outcome).calls = [.setBusy false, .setRows [row]]) ∨
    ∃ entries index view, entries ≠ [] ∧ index.entries = entries ∧ view <+: entries ∧
      (s.settle outcome).session =
        { s with
          phase := .ready, pending := false, entries, index := some index, view
          rows := view.map Row.ofEntry } ∧
      (s.settle outcome).calls = [.setBusy false, .setRows (view.map Row.ofEntry)] := by
  by_cases hnil : outcome.entries = []
  · exact .inl (settle_of_entries_eq_nil hp hc hnil)
  · obtain ⟨hsession, hcalls, -⟩ := settle_of_entries_ne_nil hp hc hnil
    obtain ⟨index, view, hindex, hview, hready, hshown⟩ :=
      takeUp_of_valid (s := { s with pending := false }) hs outcome.entries
    exact .inr ⟨outcome.entries, index, view, hnil, hindex, hview, hsession.trans hready,
      hcalls.trans hshown⟩

/-! ### Searching -/

theorem changeQuery_of_index_eq_none (h : s.index = none) (text : Text) :
    s.changeQuery text = s.stay := by
  simp [changeQuery, h]

theorem changeQuery_of_phase_ne (h : s.phase ≠ .ready) (text : Text) :
    s.changeQuery text = s.stay := by
  cases hi : s.index with
  | none => exact changeQuery_of_index_eq_none hi text
  | some index => simp [changeQuery, hi, h]

/-- **A query is answered** by new rows; only the query, the view and the rows change. -/
theorem changeQuery_of_ready (hs : s.settings.Valid) {index : Index} (hi : s.index = some index)
    (hp : s.phase = .ready) (text : Text) :
    ∃ view rows, (s.changeQuery text).session = { s with query := text, view, rows } ∧
      (s.changeQuery text).calls = [.setRows rows] := by
  obtain ⟨limit, hlimit⟩ := hs.displayLimit
  simp only [changeQuery, hi, hp]
  split
  · rename_i h
    simp at h
  · split <;> simp [Step.andThen, showRows, showEntries, hlimit, stay]

/-! ### Ending -/

/-- A session that is **over**: it is closed and given up, and it holds nothing any more. -/
structure IsOver (s : Session) : Prop where
  phase : s.phase = .closed
  cancelled : s.cancelled = true
  entries : s.entries = []
  index : s.index = none

/-- The session when it has been dismissed. -/
def released (s : Session) : Session :=
  { s with
    cancelled := true, phase := .closed, index := none, entries := [], view := [], rows := [] }

theorem isOver_released (s : Session) : s.released.IsOver := ⟨rfl, rfl, rfl, rfl⟩

theorem isClosed_of_closed (h : s.phase = .closed) : s.isClosed = true := by
  simp [isClosed, h]

theorem dismiss_of_closed (h : s.phase = .closed) : s.dismiss = s.stay := by
  simp [dismiss, h]

theorem dismiss_of_phase_ne (h : s.phase ≠ .closed) :
    s.dismiss = { session := s.released, calls := [.close] } := by
  simp [dismiss, h, released]

theorem selectable?_of_phase_ne (h : s.phase ≠ .ready) (row : Row) : s.selectable? row = none := by
  simp [selectable?, h]

theorem select_of_selectable?_eq_none {row : Row} (h : s.selectable? row = none) :
    (s.select row).session = s ∧ (s.select row).calls = [] := by
  rw [select, h]
  exact ⟨rfl, rfl⟩

/-- Outside the ready phase, selecting does nothing. -/
theorem select_of_phase_ne (h : s.phase ≠ .ready) (row : Row) :
    (s.select row).session = s ∧ (s.select row).calls = [] :=
  select_of_selectable?_eq_none (selectable?_of_phase_ne h row)

/-- **An entry is selected**: its details are shown, and the session is over. -/
theorem select_of_selectable?_eq_some {row : Row} {e : Entry} (h : s.selectable? row = some e) :
    s.phase = .ready ∧ (s.select row).session = s.released ∧
      (s.select row).calls = [.showDetail (s.rendering.detail e), .close] := by
  have hp : s.phase = .ready := by
    by_cases hp : s.phase = .ready
    · exact hp
    · simp [selectable?_of_phase_ne hp] at h
  rw [select, h]
  exact ⟨hp, rfl, rfl⟩

/-- **A session that is over stays so**, and makes no calls. -/
theorem IsOver.handle (h : s.IsOver) (e : Event) :
    (s.handle e).session.IsOver ∧ (s.handle e).calls = [] := by
  have hc : s.isClosed = true := isClosed_of_closed h.phase
  have hready : s.phase ≠ .ready := by simp [h.phase]
  cases e with
  | begin =>
    rw [Session.handle, begin_of_isClosed hc]
    exact ⟨h, rfl⟩
  | settle outcome =>
    obtain ⟨hsession, hcalls⟩ := settle_of_isClosed hc outcome
    rw [Session.handle, hsession]
    exact ⟨⟨h.phase, h.cancelled, h.entries, h.index⟩, hcalls⟩
  | changeQuery text =>
    rw [Session.handle, changeQuery_of_index_eq_none h.index]
    exact ⟨h, rfl⟩
  | select row =>
    obtain ⟨hsession, hcalls⟩ := select_of_phase_ne hready row
    rw [Session.handle, hsession]
    exact ⟨h, hcalls⟩
  | dismiss =>
    rw [Session.handle, dismiss_of_closed h.phase]
    exact ⟨h, rfl⟩
  | cancel => exact ⟨⟨h.phase, rfl, h.entries, h.index⟩, rfl⟩

/-! ### Going on or ending -/

/-- An answer with which a session **goes on**: it keeps its settings, does not close its surface,
and is closed only if it was. -/
structure Step.GoesOn (step : Step) (s : Session) : Prop where
  settings : step.session.settings = s.settings
  close_not_mem : .close ∉ step.calls
  phase : step.session.phase = .closed → s.phase = .closed

theorem goesOn_stay (s : Session) : s.stay.GoesOn s := ⟨rfl, by simp [stay], id⟩

/-- Where a session that is not closed goes on, so does any other one with its settings. -/
theorem Step.GoesOn.of_phase_ne {step : Step} {s' : Session} (h : step.GoesOn s')
    (hs : s'.settings = s.settings) (hp : s'.phase ≠ .closed) : step.GoesOn s :=
  ⟨h.settings.trans hs, h.close_not_mem, fun hc => absurd (h.phase hc) hp⟩

/-- Two steps that go on do so as one. -/
theorem Step.GoesOn.andThen {step : Step} (h : step.GoesOn s) {next : Session → Step}
    (hnext : ∀ s, (next s).GoesOn s) : (step.andThen next).GoesOn s := by
  unfold Step.andThen
  split
  · exact h
  · have h' := hnext step.session
    exact ⟨h'.settings.trans h.settings, by simp [h.close_not_mem, h'.close_not_mem],
      fun hp => h.phase (h'.phase hp)⟩

theorem goesOn_showEntries (s : Session) (entries : List Entry) :
    (s.showEntries entries).GoesOn s := by
  unfold showEntries
  split
  · exact ⟨rfl, by simp, id⟩
  · exact ⟨rfl, by simp [showRows], id⟩

theorem goesOn_takeUp (s : Session) (entries : List Entry) : (s.takeUp entries).GoesOn s := by
  simp only [takeUp]
  split
  · exact ⟨rfl, by simp, id⟩
  · rename_i index _
    have h : (showEntries { s with entries, index := some index, phase := .ready }
        entries).GoesOn s := (goesOn_showEntries _ _).of_phase_ne rfl (by simp)
    exact ⟨h.settings, by simp [h.close_not_mem], h.phase⟩

theorem goesOn_settle (s : Session) (outcome : LoadOutcome) : (s.settle outcome).GoesOn s := by
  cases hl : s.pending with
  | false =>
    rw [settle_of_not_pending hl]
    exact goesOn_stay s
  | true =>
    cases hc : s.isClosed with
    | true =>
      obtain ⟨hsession, hcalls⟩ := settle_of_isClosed hc outcome
      exact ⟨by rw [hsession], by simp [hcalls], by rw [hsession]; exact id⟩
    | false =>
      by_cases hnil : outcome.entries = []
      · obtain ⟨row, -, hsession, hcalls⟩ := settle_of_entries_eq_nil hl hc hnil
        exact ⟨by rw [hsession], by simp [hcalls], by simp [hsession]⟩
      · obtain ⟨hsession, hcalls, -⟩ := settle_of_entries_ne_nil hl hc hnil
        have h := goesOn_takeUp { s with pending := false } outcome.entries
        exact ⟨hsession ▸ h.settings, hcalls ▸ h.close_not_mem, hsession ▸ h.phase⟩

theorem goesOn_changeQuery (s : Session) (text : Text) : (s.changeQuery text).GoesOn s := by
  by_cases hp : s.phase = .ready
  · cases hi : s.index with
    | none =>
      rw [changeQuery_of_index_eq_none hi]
      exact goesOn_stay s
    | some index =>
      simp only [changeQuery, hi, hp, bne_self_eq_false, Bool.false_eq_true, if_false]
      refine Step.GoesOn.andThen ?_ fun s => ⟨rfl, by simp [stay], by simp [stay]⟩
      split
      · exact ⟨rfl, by simp [showRows], by simp [showRows]⟩
      · exact (goesOn_showEntries _ _).of_phase_ne rfl (by simp)
  · rw [changeQuery_of_phase_ne hp]
    exact goesOn_stay s

/-- **Every event leaves a session going on, or ends it**: the surface is closed when the session
is, and never again. -/
theorem handle_cases (s : Session) (e : Event) :
    (s.handle e).GoesOn s ∨
      s.phase ≠ .closed ∧ (s.handle e).session = s.released ∧ .close ∈ (s.handle e).calls := by
  cases e with
  | begin =>
    left
    cases hc : s.isClosed with
    | true =>
      rw [handle, begin_of_isClosed hc]
      exact goesOn_stay s
    | false =>
      rw [handle, begin_of_not_isClosed hc]
      exact ⟨rfl, by simp [openingCalls], by simp⟩
  | settle outcome => exact .inl (goesOn_settle s outcome)
  | changeQuery text => exact .inl (goesOn_changeQuery s text)
  | select row =>
    cases hrow : s.selectable? row with
    | none =>
      obtain ⟨hsession, hcalls⟩ := select_of_selectable?_eq_none hrow
      left
      rw [handle]
      exact ⟨by rw [hsession], by simp [hcalls], by rw [hsession]; exact id⟩
    | some entry =>
      obtain ⟨hp, hsession, hcalls⟩ := select_of_selectable?_eq_some hrow
      exact .inr ⟨by simp [hp], hsession, by simp [handle, hcalls]⟩
  | dismiss =>
    by_cases hp : s.phase = .closed
    · rw [handle, dismiss_of_closed hp]
      exact .inl (goesOn_stay s)
    · rw [handle, dismiss_of_phase_ne hp]
      exact .inr ⟨hp, rfl, by simp⟩
  | cancel => exact .inl ⟨rfl, by simp [handle, cancel], id⟩

/-- The settings of a session never change. -/
theorem settings_handle (s : Session) (e : Event) :
    (s.handle e).session.settings = s.settings := by
  rcases handle_cases s e with h | ⟨-, hsession, -⟩
  · exact h.settings
  · rw [hsession]
    rfl

theorem settings_run (s : Session) (es : List Event) :
    (s.run es).state.settings = s.settings :=
  run_invariant (fun t _ => t.settings = s.settings)
    (fun e _ t _ h => (settings_handle t e).trans h) rfl

end Session

end NativeFinder
