import NativeFinder.Proofs.Session.Change

/-!
# What cancelling a session keeps away

A session can be cancelled from outside, without a word to its surface. From then on it is closed
to everything that happens behind the surface: `calls_run_cancel` says that it answers any further
history as if it had not been cancelled and only the user's events had come, the others being
passed over.

So cancelling silences a session only if there is nothing that the user can ask for, that is
outside the ready phase. A session that is ready goes on answering queries and selections after it
was cancelled (`exists_call_ne_close_of_cancel`).

The two runs are kept in step by `abandoned`: the cancelled session is at all times the other one
but for its two marks, whether it is cancelled and whether a load is pending, and no event of the
user looks at these.
-/

namespace NativeFinder

namespace Session

variable {s : Session}

/-- Whether an event is the user's: something done on the surface. -/
def Event.isUser : Event → Bool
  | .changeQuery _ | .select _ | .dismiss => true
  | .begin | .settle _ | .cancel => false

/-- A session as it is once it has been cancelled, with or without a load that is still pending. -/
def abandoned (s : Session) (pending : Bool) : Session := { s with cancelled := true, pending }

theorem isClosed_abandoned (s : Session) (pending : Bool) :
    (s.abandoned pending).isClosed = true := by
  simp [isClosed, abandoned]

/-! ### One event -/

/-- An event behind the surface changes nothing in an abandoned session, except that a load may
settle. -/
theorem handle_abandoned_of_not_isUser {e : Event} (he : e.isUser = false) (pending : Bool) :
    ∃ pending', ((s.abandoned pending).handle e).session = s.abandoned pending' ∧
      ((s.abandoned pending).handle e).calls = [] := by
  have hc := isClosed_abandoned s pending
  cases e with
  | begin =>
    rw [handle, begin_of_isClosed hc]
    exact ⟨pending, rfl, rfl⟩
  | settle outcome => exact ⟨false, settle_of_isClosed hc outcome⟩
  | cancel => exact ⟨pending, rfl, rfl⟩
  | changeQuery | select | dismiss => simp [Event.isUser] at he

/-- A step as it is from an abandoned session. -/
def Step.abandoned (step : Step) (pending : Bool) : Step :=
  { step with session := step.session.abandoned pending }

theorem Step.andThen_abandoned {pending : Bool} {next : Session → Step}
    (hnext : ∀ s : Session, next (s.abandoned pending) = (next s).abandoned pending) (step : Step) :
    (step.abandoned pending).andThen next = (step.andThen next).abandoned pending := by
  rcases step with ⟨s, calls, logs, _ | error⟩
  · simp [Step.andThen, Step.abandoned, hnext]
  · rfl

theorem showEntries_abandoned (s : Session) (pending : Bool) (entries : List Entry) :
    (s.abandoned pending).showEntries entries = (s.showEntries entries).abandoned pending := by
  simp only [showEntries, Session.abandoned]
  cases Limit.ofValue? s.settings.displayLimit <;> rfl

theorem changeQuery_abandoned (s : Session) (pending : Bool) (text : Text) :
    (s.abandoned pending).changeQuery text = (s.changeQuery text).abandoned pending := by
  cases hi : s.index with
  | none => rw [changeQuery_of_index_eq_none hi, changeQuery_of_index_eq_none (by exact hi)]; rfl
  | some index =>
    by_cases hp : s.phase = .ready
    · have hi' : (s.abandoned pending).index = some index := hi
      have hp' : (s.abandoned pending).phase = .ready := hp
      simp only [changeQuery, hi, hi', hp, hp', bne_self_eq_false, Bool.false_eq_true, if_false]
      rw [← Step.andThen_abandoned fun s => rfl]
      congr 1
      split
      · rename_i hnone
        rw [if_pos (by exact hnone)]
        rfl
      · rename_i hsome
        rw [if_neg (by exact hsome)]
        exact showEntries_abandoned
          { s with phase := .searching, index := some index, query := text } pending _
    · rw [changeQuery_of_phase_ne hp, changeQuery_of_phase_ne (by exact hp)]
      rfl

theorem dismiss_abandoned (s : Session) (pending : Bool) :
    (s.abandoned pending).dismiss = s.dismiss.abandoned pending := by
  by_cases hp : s.phase = .closed
  · rw [dismiss_of_closed hp, dismiss_of_closed (by exact hp)]
    rfl
  · rw [dismiss_of_phase_ne hp, dismiss_of_phase_ne (by exact hp)]
    rfl

theorem select_abandoned (s : Session) (pending : Bool) (row : Row) :
    (s.abandoned pending).select row = (s.select row).abandoned pending := by
  have hrow : (s.abandoned pending).selectable? row = s.selectable? row := rfl
  simp only [select, hrow]
  cases s.selectable? row with
  | none => rfl
  | some entry =>
    exact congrArg (fun step : Step => { step with chosen := some entry })
      (Step.andThen_abandoned (fun s => dismiss_abandoned s pending) (s.choose entry))

/-- **An event of the user** is answered by an abandoned session as by the session itself. -/
theorem handle_abandoned_of_isUser {e : Event} (he : e.isUser = true) (pending : Bool) :
    (s.abandoned pending).handle e = (s.handle e).abandoned pending := by
  cases e with
  | changeQuery text => exact changeQuery_abandoned s pending text
  | select row => exact select_abandoned s pending row
  | dismiss => exact dismiss_abandoned s pending
  | begin | settle | cancel => simp [Event.isUser] at he

/-! ### Histories -/

/-- **An abandoned session answers to its user only**, and as the session itself would. -/
theorem calls_run_abandoned (s : Session) (pending : Bool) (es : List Event) :
    ((s.abandoned pending).run es).calls = (s.run (es.filter Event.isUser)).calls := by
  induction es generalizing s pending with
  | nil => rfl
  | cons e es ih =>
    cases he : e.isUser with
    | true =>
      rw [List.filter_cons_of_pos he, calls_run_cons, calls_run_cons, handle_abandoned_of_isUser he]
      exact congrArg _ (ih _ pending)
    | false =>
      obtain ⟨pending', hsession, hcalls⟩ := handle_abandoned_of_not_isUser (s := s) he pending
      rw [List.filter_cons_of_neg (by simp [he]), calls_run_cons, hsession, hcalls]
      exact ih s pending'

/-- Outside the ready phase a user can do no more than close the surface. -/
theorem handle_isUser_of_phase_ne {e : Event} (he : e.isUser = true) (hp : s.phase ≠ .ready) :
    (s.handle e).session.phase ≠ .ready ∧ ∀ call ∈ (s.handle e).calls, call = .close := by
  cases e with
  | changeQuery text =>
    rw [handle, changeQuery_of_phase_ne hp]
    exact ⟨hp, by simp [stay]⟩
  | select row =>
    obtain ⟨hsession, hcalls⟩ := select_of_phase_ne hp row
    rw [handle, hsession, hcalls]
    exact ⟨hp, by simp⟩
  | dismiss =>
    by_cases hc : s.phase = .closed
    · rw [handle, dismiss_of_closed hc]
      exact ⟨hp, by simp [stay]⟩
    · rw [handle, dismiss_of_phase_ne hc]
      exact ⟨by simp [released], by simp⟩
  | begin | settle | cancel => simp [Event.isUser] at he

/-- **Outside the ready phase** an abandoned session makes no call but the close. -/
theorem eq_close_of_mem_calls_run_abandoned (hp : s.phase ≠ .ready) (pending : Bool)
    (es : List Event) : ∀ call ∈ ((s.abandoned pending).run es).calls, call = .close := by
  rw [calls_run_abandoned]
  refine (run_invariant (fun s calls => s.phase ≠ .ready ∧ ∀ call ∈ calls, call = .close)
    (fun e he s calls h => ?_) ⟨hp, List.forall_mem_nil _⟩).2
  obtain ⟨hp', hcalls⟩ := handle_isUser_of_phase_ne (List.mem_filter.mp he).2 h.1
  exact ⟨hp', List.forall_mem_append.mpr ⟨h.2, hcalls⟩⟩

/-! ### What cancelling comes to -/

/-- **What cancelling keeps away**: whatever has come before, a cancelled session answers as if only
the user's events came and it had not been cancelled. Outside the ready phase this leaves no call
but the close; a session that is ready still answers every query with rows, and a selection with
the details of an entry. -/
theorem calls_run_cancel (settings : SessionSettings) (rendering : Rendering)
    (past : List Event) :
    let s := ((fresh settings rendering).run past).state
    (∀ es, (s.cancel.session.run es).calls = (s.run (es.filter Event.isUser)).calls) ∧
      (s.phase ≠ .ready → ∀ es, ∀ call ∈ (s.cancel.session.run es).calls, call = .close) ∧
      (settings.Valid → s.phase = .ready →
        (∀ text, ∃ rows, (s.cancel.session.run [.changeQuery text]).calls = [.setRows rows]) ∧
          ∀ row e, s.selectable? row = some e →
            (s.cancel.session.run [.select row]).calls =
              [.showDetail (s.rendering.detail e), .close]) := by
  intro s
  have hrun : ∀ es, (s.cancel.session.run es).calls = (s.run (es.filter Event.isUser)).calls :=
    calls_run_abandoned s s.pending
  refine ⟨hrun, fun hp => eq_close_of_mem_calls_run_abandoned hp s.pending,
    fun hs hp => ⟨fun text => ?_, fun row e hrow => ?_⟩⟩
  · have hs' : s.settings.Valid := by
      rw [settings_run]
      exact hs
    obtain ⟨_, -, hsupplied⟩ := exists_isSupplied_of_ready hs hp
    obtain ⟨index, hi, -⟩ := hsupplied.indexed
    obtain ⟨view, rows, -, hcalls⟩ := changeQuery_of_ready hs' hi hp text
    exact ⟨rows, (hrun _).trans ((calls_run_singleton _).trans hcalls)⟩
  · obtain ⟨-, -, hcalls⟩ := select_of_selectable?_eq_some hrow
    exact (hrun _).trans ((calls_run_singleton _).trans hcalls)

/-- A session that has found one entry and is cancelled. -/
theorem calls_run_cancel_of_ready :
    let s := ((fresh .standard .console).run
      [.begin, .settle (.texts ["/** a */\nnative A takes nothing returns nothing"])]).state
    s.phase = .ready ∧
      (∀ es, (s.cancel.session.run es).calls = (s.run (es.filter Event.isUser)).calls) ∧
      (∀ text, ∃ rows, (s.cancel.session.run [.changeQuery text]).calls = [.setRows rows]) ∧
        ∀ row e, s.selectable? row = some e →
          (s.cancel.session.run [.select row]).calls =
            [.showDetail (s.rendering.detail e), .close] := by
  intro s
  have hp : s.phase = .ready := by decide +kernel
  obtain ⟨hrun, -, hready⟩ := calls_run_cancel .standard .console
    [.begin, .settle (.texts ["/** a */\nnative A takes nothing returns nothing"])]
  exact ⟨hp, hrun, hready SessionSettings.valid_standard hp⟩

/-- **Cancelling does not silence a session**: one that is ready shows its entries again when the
query changes after it was cancelled. -/
theorem exists_call_ne_close_of_cancel :
    let s := ((fresh .standard .console).run
      [.begin, .settle (.texts ["/** a */\nnative A takes nothing returns nothing"])]).state
    ¬ ∀ es, ∀ call ∈ (s.cancel.session.run es).calls, call = .close := by
  intro s h
  have hcalls : (s.cancel.session.run [.changeQuery ""]).calls =
      [.setRows (s.view.map Row.ofEntry)] := by decide +kernel
  have hclose := h _ (.setRows (s.view.map Row.ofEntry)) (hcalls ▸ List.mem_singleton_self _)
  cases hclose

end Session

end NativeFinder
