import NativeFinder.Proofs.Session.History

/-!
# How a start settles

A start begins with a load and ends when the load has settled; in between the user may do anything.
It is **settled** well if the session is then ready, inert or closed, its surface is not left busy,
and entries are held only with an index over them (`IsSettled`).

`isSettled_run_iff` says when this is so. A dismissal settles every start. Otherwise a session that
was cancelled is left loading, and a session that was not settles well unless the load brings
entries and the settings of the search are wrong: then the error escapes from the start in the
middle, with the entries held, no index, and the surface still busy (`exists_start_left_busy`).
-/

namespace NativeFinder

/-- Whether a surface is busy after a call, if it was before. -/
def SurfaceCall.leavesBusy (busy : Bool) : SurfaceCall → Bool
  | .setBusy busy => busy
  | .close => false
  | .setRows _ | .showDetail _ => busy

/-- Settings with which entries can be searched, whatever the limit on the list. -/
def SessionSettings.CanSearch (settings : SessionSettings) : Prop :=
  settings.threshold.IsThreshold ∧ settings.minMatchLength.IsLeastLength

namespace Session

variable {s : Session} {es : List Event}

/-- Whether a surface is left busy by some calls: it is what the last call says about it, and a
closed surface is not. -/
def isBusy (calls : List SurfaceCall) : Bool := calls.foldl SurfaceCall.leavesBusy false

/-- A session that has **settled**, with a surface that is not left busy. -/
structure IsSettled (s : Session) (calls : List SurfaceCall) : Prop where
  phase : s.phase = .ready ∨ s.phase = .inert ∨ s.phase = .closed
  not_busy : isBusy calls = false
  indexed : s.entries = [] ∨ ∃ index, s.index = some index ∧ index.entries = s.entries

/-- Whether an event begins or settles a load. -/
def Event.isLoading : Event → Bool
  | .begin | .settle _ => true
  | .changeQuery _ | .select _ | .dismiss | .cancel => false

theorem IsOver.isSettled (h : s.IsOver) {calls : List SurfaceCall} (hcalls : isBusy calls = false) :
    s.IsSettled calls :=
  ⟨.inr (.inr h.phase), hcalls, .inl h.entries⟩

/-- A session that is over makes no calls in any history. -/
theorem IsOver.run (h : s.IsOver) (es : List Event) :
    (s.run es).state.IsOver ∧ (s.run es).calls = [] := by
  refine run_invariant (fun s calls => s.IsOver ∧ calls = []) (fun e _ s calls hs => ?_) ⟨h, rfl⟩
  obtain ⟨hover, hcalls⟩ := hs.1.handle e
  exact ⟨hover, by rw [hs.2, hcalls]; rfl⟩

/-! ### Waiting for a load -/

/-- A session that has nothing yet to show. -/
structure IsWaiting (s : Session) : Prop where
  phase : s.phase = .loading
  entries : s.entries = []
  index : s.index = none

theorem isWaiting_fresh (settings : SessionSettings) (rendering : Rendering) :
    (fresh settings rendering).IsWaiting := ⟨rfl, rfl, rfl⟩

/-- While it waits, a session only takes note that it is cancelled. -/
theorem IsWaiting.handle (h : s.IsWaiting) {e : Event} (he : e.isLoading = false)
    (hne : e ≠ .dismiss) :
    (s.handle e).session = { s with cancelled := s.cancelled || e = .cancel } ∧
      (s.handle e).calls = [] := by
  have hready : s.phase ≠ .ready := by simp [h.phase]
  cases e with
  | changeQuery text =>
    rw [Session.handle, changeQuery_of_phase_ne hready]
    simp [stay]
  | select row => simpa [Session.handle] using select_of_phase_ne hready row
  | cancel => simp [Session.handle, cancel]
  | dismiss => exact absurd rfl hne
  | begin | settle => simp [Event.isLoading] at he

theorem IsWaiting.run_of_dismiss_not_mem (h : s.IsWaiting) (hes : ∀ e ∈ es, e.isLoading = false)
    (hdismiss : .dismiss ∉ es) :
    s.run es = ⟨{ s with cancelled := s.cancelled || decide (.cancel ∈ es) }, []⟩ := by
  induction es generalizing s with
  | nil => simp
  | cons e es ih =>
    obtain ⟨he, hes⟩ := List.forall_mem_cons.mp hes
    obtain ⟨hne, hdismiss⟩ : .dismiss ≠ e ∧ .dismiss ∉ es := by simpa using hdismiss
    obtain ⟨hsession, hcalls⟩ := h.handle he hne.symm
    have hrest := ih (s := (s.handle e).session)
      (by rw [hsession]; exact ⟨h.phase, h.entries, h.index⟩) hes hdismiss
    have hmem : (.cancel ∈ e :: es) ↔ e = .cancel ∨ .cancel ∈ es := by
      rw [List.mem_cons, eq_comm]
    rw [run_cons, hrest, hcalls, hsession]
    simp only [hmem, Bool.decide_or, Bool.or_assoc, List.append_nil]

theorem IsWaiting.run_of_dismiss_mem (h : s.IsWaiting) (hes : ∀ e ∈ es, e.isLoading = false)
    (hdismiss : .dismiss ∈ es) : (s.run es).state.IsOver ∧ (s.run es).calls = [.close] := by
  induction es generalizing s with
  | nil => cases hdismiss
  | cons e es ih =>
    obtain ⟨he, hes⟩ := List.forall_mem_cons.mp hes
    by_cases hne : e = .dismiss
    · subst hne
      have hp : s.phase ≠ .closed := by simp [h.phase]
      obtain ⟨hover, hcalls⟩ := s.isOver_released.run es
      rw [state_run_cons, calls_run_cons, Session.handle, dismiss_of_phase_ne hp, hcalls]
      exact ⟨hover, rfl⟩
    · obtain ⟨hsession, hcalls⟩ := h.handle he hne
      have hmem : .dismiss ∈ es := (List.mem_cons.mp hdismiss).resolve_left (Ne.symm hne)
      rw [state_run_cons, calls_run_cons, hsession, hcalls]
      exact ih ⟨h.phase, h.entries, h.index⟩ hes hmem

/-! ### The load settles -/

theorem showEntries_cases (s : Session) (entries : List Entry) :
    (∃ view rows, (s.showEntries entries).session = { s with view, rows }) ∧
      ((s.showEntries entries).calls = [] ∨
        ∃ rows, (s.showEntries entries).calls = [.setRows rows]) := by
  unfold showEntries
  cases Limit.ofValue? s.settings.displayLimit with
  | none => exact ⟨⟨s.view, s.rows, rfl⟩, .inl rfl⟩
  | some limit => exact ⟨⟨_, _, rfl⟩, .inr ⟨_, rfl⟩⟩

/-- **Entries are taken up** with settings that can be used, even if the limit cannot. -/
theorem takeUp_of_canSearch (h : s.settings.CanSearch) (entries : List Entry) :
    ∃ index view rows, index.entries = entries ∧
      (s.takeUp entries).session =
        { s with phase := .ready, entries, index := some index, view, rows } ∧
      ((s.takeUp entries).calls = [.setBusy false] ∨
        ∃ rows, (s.takeUp entries).calls = [.setBusy false, .setRows rows]) := by
  obtain ⟨index, hbuild, hentries⟩ := Index.exists_build_defaultKeys h.1 h.2 entries
  obtain ⟨⟨view, rows, hsession⟩, hcalls⟩ :=
    showEntries_cases { s with entries, index := some index, phase := .ready } entries
  refine ⟨index, view, rows, hentries, ?_, ?_⟩
  · simp only [takeUp, buildIndex, hbuild, hsession]
  · simp only [takeUp, buildIndex, hbuild, List.cons.injEq, true_and]
    exact hcalls

/-- **Entries are held without an index** when the settings cannot be used. -/
theorem takeUp_of_not_canSearch (h : ¬ s.settings.CanSearch) (entries : List Entry) :
    ∃ e, s.takeUp entries = { session := { s with entries }, error := some (.search e) } := by
  cases hbuild : s.buildIndex entries with
  | error e =>
    refine ⟨e, ?_⟩
    have hbuild' : { s with entries }.buildIndex entries = .error e := hbuild
    simp only [takeUp, hbuild']
  | ok index => exact absurd (Index.exists_build_defaultKeys_iff.mp ⟨index, hbuild⟩) h

/-- A waiting session **settles** exactly if there is nothing to search or the settings can be
used. -/
theorem IsWaiting.isSettled_settle_iff (h : s.IsWaiting) (hl : s.pending = true)
    (hc : s.isClosed = false) (outcome : LoadOutcome) :
    (s.settle outcome).session.IsSettled (openingCalls ++ (s.settle outcome).calls) ↔
      outcome.entries = [] ∨ s.settings.CanSearch := by
  by_cases hnil : outcome.entries = []
  · obtain ⟨row, -, hsession, hcalls⟩ := settle_of_entries_eq_nil hl hc hnil
    refine iff_of_true ?_ (.inl hnil)
    rw [hsession, hcalls]
    exact ⟨.inr (.inl rfl), rfl, .inl h.entries⟩
  · obtain ⟨hsession, hcalls, -⟩ := settle_of_entries_ne_nil hl hc hnil
    rw [hsession, hcalls, or_iff_right hnil]
    by_cases hsettings : s.settings.CanSearch
    · obtain ⟨index, view, rows, hentries, hready, hshown⟩ :=
        takeUp_of_canSearch (s := { s with pending := false }) hsettings outcome.entries
      refine iff_of_true ⟨?_, ?_, ?_⟩ hsettings
      · rw [hready]
        exact .inl rfl
      · rcases hshown with hshown | ⟨rows, hshown⟩ <;> rw [hshown] <;> rfl
      · rw [hready]
        exact .inr ⟨index, rfl, hentries⟩
    · obtain ⟨e, hstep⟩ :=
        takeUp_of_not_canSearch (s := { s with pending := false }) hsettings outcome.entries
      refine iff_of_false (fun hsettled => ?_) hsettings
      rw [hstep] at hsettled
      simpa [h.phase] using hsettled.phase

/-! ### Starts -/

/-- A session that waits goes on waiting when it begins. -/
theorem IsWaiting.begin (h : s.IsWaiting) :
    s.begin.session.IsWaiting ∧ (s.begin.calls = [] ∨ s.begin.calls = openingCalls) := by
  cases hc : s.isClosed with
  | true =>
    rw [begin_of_isClosed hc]
    exact ⟨h, .inl rfl⟩
  | false =>
    rw [begin_of_not_isClosed hc]
    exact ⟨⟨rfl, h.entries, h.index⟩, .inr rfl⟩

variable {before during : List Event}

/-- A session that is **dismissed** around its beginning is over, and its surface is not busy. -/
theorem IsWaiting.run_begin_of_dismiss_mem (h : s.IsWaiting)
    (hes : ∀ e ∈ before ++ during, e.isLoading = false) (hdismiss : .dismiss ∈ before ++ during) :
    (s.run (before ++ .begin :: during)).state.IsOver ∧
      isBusy (s.run (before ++ .begin :: during)).calls = false := by
  obtain ⟨hbefore, hduring⟩ := List.forall_mem_append.mp hes
  rw [run_append]
  by_cases hmem : .dismiss ∈ before
  · obtain ⟨hover, hcalls⟩ := h.run_of_dismiss_mem hbefore hmem
    obtain ⟨hover', hcalls'⟩ := hover.run (.begin :: during)
    rw [hcalls, hcalls']
    exact ⟨hover', rfl⟩
  · have hmem' : .dismiss ∈ during := (List.mem_append.mp hdismiss).resolve_left hmem
    rw [h.run_of_dismiss_not_mem hbefore hmem, run_cons, Session.handle]
    have hwaiting : IsWaiting { s with cancelled := s.cancelled || decide (.cancel ∈ before) } :=
      ⟨h.phase, h.entries, h.index⟩
    obtain ⟨hbegun, hcalls⟩ := hwaiting.begin
    obtain ⟨hover, hclose⟩ := hbegun.run_of_dismiss_mem hduring hmem'
    rw [hclose]
    refine ⟨hover, ?_⟩
    rcases hcalls with hcalls | hcalls <;> rw [hcalls] <;> rfl

/-- A session that is **cancelled** around its beginning, and not dismissed, is left loading. -/
theorem IsWaiting.run_begin_of_cancel_mem (h : s.IsWaiting)
    (hes : ∀ e ∈ before ++ during, e.isLoading = false) (hdismiss : .dismiss ∉ before ++ during)
    (hcancel : .cancel ∈ before ++ during) :
    (s.run (before ++ .begin :: during)).state.phase = .loading ∧
      (s.run (before ++ .begin :: during)).state.isClosed = true := by
  obtain ⟨hbefore, hduring⟩ := List.forall_mem_append.mp hes
  obtain ⟨hnot, hnot'⟩ : .dismiss ∉ before ∧ .dismiss ∉ during := by simpa using hdismiss
  have hwaiting : IsWaiting { s with cancelled := s.cancelled || decide (.cancel ∈ before) } :=
    ⟨h.phase, h.entries, h.index⟩
  rw [run_append, h.run_of_dismiss_not_mem hbefore hnot, run_cons, Session.handle,
    hwaiting.begin.1.run_of_dismiss_not_mem hduring hnot']
  refine ⟨hwaiting.begin.1.phase, ?_⟩
  by_cases hmem : .cancel ∈ before
  · have hc : isClosed { s with cancelled := s.cancelled || decide (.cancel ∈ before) } = true := by
      simp [isClosed, hmem]
    rw [begin_of_isClosed hc]
    simp [isClosed, stay, hmem]
  · have hmem' : .cancel ∈ during := (List.mem_append.mp hcancel).resolve_left hmem
    simp [isClosed, hmem']

/-- A session that is **left alone** around its beginning waits for its load. -/
theorem run_begin_of_not_mem (settings : SessionSettings) (rendering : Rendering)
    (hes : ∀ e ∈ before ++ during, e.isLoading = false) (hdismiss : .dismiss ∉ before ++ during)
    (hcancel : .cancel ∉ before ++ during) :
    (fresh settings rendering).run (before ++ .begin :: during) =
      ⟨{ fresh settings rendering with pending := true, rows := [Row.loading] }, openingCalls⟩ := by
  obtain ⟨hbefore, hduring⟩ := List.forall_mem_append.mp hes
  obtain ⟨hnot, hnot'⟩ : .dismiss ∉ before ∧ .dismiss ∉ during := by simpa using hdismiss
  obtain ⟨hcancel, hcancel'⟩ : .cancel ∉ before ∧ .cancel ∉ during := by simpa using hcancel
  have hfirst : (fresh settings rendering).run before = ⟨fresh settings rendering, []⟩ := by
    rw [(isWaiting_fresh settings rendering).run_of_dismiss_not_mem hbefore hnot]
    simp [hcancel, fresh]
  have hbegun : (fresh settings rendering).begin =
      { session := { fresh settings rendering with pending := true, rows := [Row.loading] }
        calls := openingCalls } := begin_of_not_isClosed rfl
  have hwaiting :
      IsWaiting { fresh settings rendering with pending := true, rows := [Row.loading] } :=
    ⟨rfl, rfl, rfl⟩
  rw [run_append, hfirst, run_cons, Session.handle, hbegun,
    hwaiting.run_of_dismiss_not_mem hduring hnot']
  simp [hcancel', fresh]

/-- **When a start settles.** Whatever happens around the beginning of a session and while it waits
for its load, a dismissal settles the start; without one, it settles exactly if the session is not
cancelled and either the load brings nothing to search or the settings of the search can be used.
If they cannot, the start ends with an error, while the session is still loading, its surface is
busy, and the entries are held without an index. -/
theorem isSettled_run_iff (settings : SessionSettings) (rendering : Rendering)
    {before during : List Event} (hes : ∀ e ∈ before ++ during, e.isLoading = false)
    (outcome : LoadOutcome) :
    let s := ((fresh settings rendering).run (before ++ .begin :: during)).state
    let r := (fresh settings rendering).run (before ++ .begin :: during ++ [.settle outcome])
    (r.state.IsSettled r.calls ↔
      .dismiss ∈ before ++ during ∨
        .cancel ∉ before ++ during ∧ (outcome.entries = [] ∨ settings.CanSearch)) ∧
      (.dismiss ∉ before ++ during → .cancel ∉ before ++ during → outcome.entries ≠ [] →
        ¬ settings.CanSearch →
          r.state.phase = .loading ∧ isBusy r.calls = true ∧ r.state.entries = outcome.entries ∧
            r.state.index = none ∧ ∃ e, (s.settle outcome).error = some (.search e)) := by
  intro s r
  have hr : r = ⟨(s.settle outcome).session,
      ((fresh settings rendering).run (before ++ .begin :: during)).calls ++
        (s.settle outcome).calls⟩ := by
    rw [show r = _ from run_append _ _, run_cons, run_nil, List.append_nil]
    rfl
  have hwaiting := isWaiting_fresh settings rendering
  by_cases hdismiss : .dismiss ∈ before ++ during
  -- when the load settles, the session is over
  · obtain ⟨hover, hbusy⟩ := hwaiting.run_begin_of_dismiss_mem hes hdismiss
    obtain ⟨hover', hcalls⟩ := hover.handle (.settle outcome)
    refine ⟨iff_of_true ?_ (.inl hdismiss), fun hnot => absurd hdismiss hnot⟩
    rw [hr]
    refine hover'.isSettled ?_
    rw [show (s.settle outcome).calls = [] from hcalls, List.append_nil]
    exact hbusy
  by_cases hcancel : .cancel ∈ before ++ during
  -- the outcome of the load is discarded, and nothing else ends the loading
  · obtain ⟨hphase, hclosed⟩ := hwaiting.run_begin_of_cancel_mem hes hdismiss hcancel
    refine ⟨iff_of_false (fun hsettled => ?_) (by simp [hdismiss, hcancel]),
      fun _ hnot => absurd hcancel hnot⟩
    have hloading : r.state.phase = .loading := by
      rw [hr, show (s.settle outcome).session = _ from (settle_of_isClosed hclosed outcome).1]
      exact hphase
    simpa [hloading] using hsettled.phase
  · have hrun := run_begin_of_not_mem settings rendering hes hdismiss hcancel
    have hs : s = { fresh settings rendering with pending := true, rows := [Row.loading] } :=
      congrArg Run.state hrun
    have hsettings : s.settings = settings := by rw [hs]; rfl
    have hwaits : s.IsWaiting := by rw [hs]; exact ⟨rfl, rfl, rfl⟩
    have hl : s.pending = true := by rw [hs]
    have hc : s.isClosed = false := by rw [hs]; rfl
    rw [hr, congrArg Run.calls hrun]
    refine ⟨?_, fun _ _ hne hsearch => ?_⟩
    · rw [hwaits.isSettled_settle_iff hl hc outcome, hsettings]
      simp [hdismiss, hcancel]
    · obtain ⟨hsession, hcalls, herror⟩ := settle_of_entries_ne_nil hl hc hne
      obtain ⟨e, hstep⟩ := takeUp_of_not_canSearch (s := { s with pending := false })
        (by rwa [← hsettings] at hsearch) outcome.entries
      rw [hsession, hcalls, herror, hstep]
      exact ⟨hwaits.phase, rfl, rfl, hwaits.index, e, rfl⟩

/-- A session that is asked and cancelled while it waits, and then dismissed. -/
theorem isSettled_run_iff_of_dismiss :
    let es : List Event := [.changeQuery "a", .cancel, .dismiss]
    let r := (fresh .standard .console).run
      ([] ++ .begin :: es ++ [.settle (.broken "connection reset")])
    (∀ e ∈ [] ++ es, e.isLoading = false) ∧ r.state.IsSettled r.calls := by
  intro es r
  have hes : ∀ e ∈ [] ++ es, e.isLoading = false := by decide
  exact ⟨hes, (isSettled_run_iff .standard .console hes _).1.mpr (.inl (by decide))⟩

/-- **A start can end in the middle**: with a threshold above `1`, a load that brings an entry
leaves the session loading and its surface busy. -/
theorem exists_start_left_busy :
    let settings : SessionSettings :=
      { SessionSettings.standard with threshold := .float (.ofRat (3 / 2)) }
    let r := (fresh settings .console).run
      [.begin, .settle (.texts ["/** a */\nnative A takes nothing returns nothing"])]
    r.state.phase = .loading ∧ isBusy r.calls = true ∧ r.state.entries.length = 1 ∧
      r.state.index.isNone ∧ ¬ r.state.IsSettled r.calls := by
  intro settings r
  have hphase : r.state.phase = .loading := by decide +kernel
  refine ⟨hphase, by decide +kernel, by decide +kernel, by decide +kernel, fun h => ?_⟩
  simpa [hphase] using h.phase

end Session

end NativeFinder
