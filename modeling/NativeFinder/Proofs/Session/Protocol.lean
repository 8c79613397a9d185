import NativeFinder.Proofs.Session.History

/-!
# What a surface sees of a session

The calls that a session makes on its surface follow a fixed course. `Life` lists the courses
from the first call to the last: the surface is closed unopened, or while the load is pending, or
after a report that there is nothing to search, or after lists of rows, perhaps with the details
of one entry at the very end. `calls_run_prefix_life` says that in any history in which the session
begins at most once the calls are the start of such a course.

The invariant is `Stands`: what the calls so far say about the session. Only a session that stands
at `opened` can have a load to wait for, so wherever else it stands a load that settles finds
nothing to do or a session that is over.
-/

namespace NativeFinder

namespace Session

/-- **The life of a surface**: the calls that it gets, from the first one to its close. -/
inductive Life : List SurfaceCall → Prop
  | unopened : Life [.close]
  | abandoned : Life (openingCalls ++ [.close])
  | reported {row : Row} (h : IsReport row) :
      Life (openingCalls ++ [.setBusy false, .setRows [row]] ++ [.close])
  | searched {lists : List (List Row)} (h : lists ≠ []) :
      Life (openingCalls ++ .setBusy false :: lists.map .setRows ++ [.close])
  | selected {lists : List (List Row)} (h : lists ≠ []) (detail : Detail) :
      Life (openingCalls ++ .setBusy false :: lists.map .setRows ++ [.showDetail detail, .close])

/-- Where a session **stands** after the calls that it has made. -/
inductive Stands (s : Session) : List SurfaceCall → Prop
  | unopened (hp : s.phase = .loading) (hi : s.index = none) (hl : s.pending = false) : Stands s []
  | opened (hp : s.phase = .loading) (hi : s.index = none) : Stands s openingCalls
  | inert {row : Row} (h : IsReport row) (hp : s.phase = .inert) (hi : s.index = none)
      (hl : s.pending = false) : Stands s (openingCalls ++ [.setBusy false, .setRows [row]])
  | ready {lists : List (List Row)} (h : lists ≠ []) (hp : s.phase = .ready)
      (hi : s.index.isSome) (hl : s.pending = false) :
      Stands s (openingCalls ++ .setBusy false :: lists.map .setRows)
  | ended {calls : List SurfaceCall} (h : Life calls) (hs : s.IsOver) : Stands s calls

variable {s : Session} {calls : List SurfaceCall}

theorem stands_fresh (settings : SessionSettings) (rendering : Rendering) :
    Stands (fresh settings rendering) [] :=
  .unopened rfl rfl rfl

/-- The surface of a session that is not over can be closed at any time. -/
theorem Stands.life_append_close (h : Stands s calls) (hs : s.phase ≠ .closed) :
    Life (calls ++ [.close]) := by
  cases h with
  | unopened => exact .unopened
  | opened => exact .abandoned
  | inert hrow => exact .reported hrow
  | ready hne => exact .searched hne
  | ended _ hover => exact absurd hover.phase hs

theorem Stands.life_of_closed (h : Stands s calls) (hs : s.phase = .closed) : Life calls := by
  cases h with
  | ended hlife => exact hlife
  | unopened hp | opened hp | inert _ hp | ready _ hp => simp [hs] at hp

/-! ### One event -/

/-- A session that is over has no calls to add. -/
theorem stands_handle_of_isOver (hlife : Life calls) (hs : s.IsOver) (e : Event) :
    Stands (s.handle e).session (calls ++ (s.handle e).calls) := by
  obtain ⟨hover, hcalls⟩ := hs.handle e
  rw [hcalls, List.append_nil]
  exact .ended hlife hover

/-- Beginning opens the surface of a session that has made no calls. -/
theorem stands_begin (h : Stands s []) : Stands s.begin.session ([] ++ s.begin.calls) := by
  cases hc : s.isClosed with
  | true =>
    rw [begin_of_isClosed hc]
    exact h
  | false =>
    have hi : s.index = none := by
      cases h with
      | unopened _ hi => exact hi
      | ended _ hs => exact hs.index
    rw [begin_of_not_isClosed hc]
    exact .opened rfl hi

/-- A load that settles is reported or taken up, if there is one and the session is not closed. -/
theorem stands_settle (hs : s.settings.Valid) (h : Stands s calls) (outcome : LoadOutcome) :
    Stands (s.settle outcome).session (calls ++ (s.settle outcome).calls) := by
  cases hl : s.pending with
  | false =>
    rw [settle_of_not_pending hl]
    simpa [stay] using h
  | true =>
    cases h with
    | unopened _ _ hl' | inert _ _ _ hl' | ready _ _ _ hl' => simp [hl] at hl'
    | ended hlife hover => exact stands_handle_of_isOver hlife hover (.settle outcome)
    | opened hp hi =>
      cases hc : s.isClosed with
      | true =>
        obtain ⟨hsession, hcalls⟩ := settle_of_isClosed hc outcome
        rw [hsession, hcalls]
        exact .opened hp hi
      | false =>
        rcases settle_of_not_isClosed hs hl hc outcome with
          ⟨row, hrow, hsession, hcalls⟩ | ⟨entries, index, view, -, -, -, hsession, hcalls⟩
        · rw [hsession, hcalls]
          exact .inert hrow rfl hi rfl
        · rw [hsession, hcalls]
          have hne : [view.map Row.ofEntry] ≠ [] := by simp
          exact .ready hne rfl rfl rfl

/-- A query adds one more list of rows, if there is an index to search. -/
theorem stands_changeQuery (hs : s.settings.Valid) (h : Stands s calls) (text : Text) :
    Stands (s.changeQuery text).session (calls ++ (s.changeQuery text).calls) := by
  cases hi : s.index with
  | none =>
    rw [changeQuery_of_index_eq_none hi]
    simpa [stay] using h
  | some index =>
    cases h with
    | unopened _ hi' | opened _ hi' | inert _ _ hi' => simp [hi] at hi'
    | ended hlife hover => exact stands_handle_of_isOver hlife hover (.changeQuery text)
    | @ready lists hne hp hi' hl =>
      obtain ⟨view, rows, hsession, hcalls⟩ := changeQuery_of_ready hs hi hp text
      have hmore : openingCalls ++ .setBusy false :: lists.map .setRows ++ [.setRows rows] =
          openingCalls ++ .setBusy false :: (lists ++ [rows]).map .setRows := by simp
      rw [hsession, hcalls, hmore]
      exact .ready (by simp) hp hi' hl

/-- A selection ends the session after the details, if the row selects an entry. -/
theorem stands_select (h : Stands s calls) (row : Row) :
    Stands (s.select row).session (calls ++ (s.select row).calls) := by
  cases hrow : s.selectable? row with
  | none =>
    obtain ⟨hsession, hcalls⟩ := select_of_selectable?_eq_none hrow
    rw [hsession, hcalls, List.append_nil]
    exact h
  | some entry =>
    obtain ⟨hready, hsession, hcalls⟩ := select_of_selectable?_eq_some hrow
    rw [hsession, hcalls]
    cases h with
    | unopened hp | opened hp | inert _ hp => simp [hp] at hready
    | ended _ hover => simp [hover.phase] at hready
    | ready hne => exact .ended (.selected hne _) (isOver_released s)

theorem stands_dismiss (h : Stands s calls) :
    Stands s.dismiss.session (calls ++ s.dismiss.calls) := by
  by_cases hp : s.phase = .closed
  · rw [dismiss_of_closed hp]
    simpa [stay] using h
  · rw [dismiss_of_phase_ne hp]
    exact .ended (h.life_append_close hp) (isOver_released s)

theorem stands_cancel (h : Stands s calls) : Stands s.cancel.session (calls ++ s.cancel.calls) := by
  rw [cancel, List.append_nil]
  cases h with
  | unopened hp hi hl => exact .unopened hp hi hl
  | opened hp hi => exact .opened hp hi
  | inert hrow hp hi hl => exact .inert hrow hp hi hl
  | ready hne hp hi hl => exact .ready hne hp hi hl
  | ended hlife hover => exact .ended hlife ⟨hover.phase, rfl, hover.entries, hover.index⟩

/-- **One event** other than a second beginning leads from where a session stands to where it
stands next. -/
theorem stands_handle (hs : s.settings.Valid) (h : Stands s calls) {e : Event}
    (he : e = .begin → calls = [] ∨ s.IsOver) :
    Stands (s.handle e).session (calls ++ (s.handle e).calls) := by
  by_cases hover : s.IsOver
  · cases h with
    | ended hlife => exact stands_handle_of_isOver hlife hover e
    | unopened hp | opened hp | inert _ hp | ready _ hp => simp [hover.phase] at hp
  · cases e with
    | begin =>
      obtain rfl := (he rfl).resolve_right hover
      exact stands_begin h
    | settle outcome => exact stands_settle hs h outcome
    | changeQuery text => exact stands_changeQuery hs h text
    | select row => exact stands_select h row
    | dismiss => exact stands_dismiss h
    | cancel => exact stands_cancel h

/-- Before it begins, a session makes no calls but the one that ends it. -/
theorem calls_eq_nil_or_isOver_of_ne_begin (h : Stands s []) {e : Event} (he : e ≠ .begin) :
    (s.handle e).calls = [] ∨ (s.handle e).session.IsOver := by
  cases h with
  | ended _ hover => exact .inr (hover.handle e).1
  | unopened hp hi hl =>
    cases e with
    | begin => exact absurd rfl he
    | settle outcome => exact .inl (by rw [handle, settle_of_not_pending hl, stay])
    | changeQuery text => exact .inl (by rw [handle, changeQuery_of_index_eq_none hi, stay])
    | select row => exact .inl (select_of_phase_ne (by simp [hp]) row).2
    | dismiss =>
      rw [handle, dismiss_of_phase_ne (by simp [hp])]
      exact .inr (isOver_released s)
    | cancel => exact .inl rfl

/-! ### Histories -/

/-- **Every history** in which the session begins at most once leads from where it stands to where
it stands at the end. -/
theorem stands_run {es : List Event} (hs : s.settings.Valid) (h : Stands s calls)
    (hbegin : .begin ∈ es → calls = [] ∨ s.IsOver) (hes : es.count .begin ≤ 1) :
    Stands (s.run es).state (calls ++ (s.run es).calls) := by
  induction es generalizing s calls with
  | nil => simpa using h
  | cons e es ih =>
    have hnext := stands_handle hs h (e := e) fun he => hbegin (by simp [he])
    have hs' : (s.handle e).session.settings.Valid := by rw [settings_handle]; exact hs
    rw [state_run_cons, calls_run_cons, ← List.append_assoc]
    refine ih hs' hnext (fun hmem => ?_) (Nat.le_trans List.count_le_count_cons hes)
    -- the beginning is still to come, so it is not this event
    have hne : e ≠ .begin := by
      rintro rfl
      have hpos : 0 < es.count .begin := List.count_pos_iff.mpr hmem
      rw [List.count_cons_self] at hes
      omega
    rcases hbegin (List.mem_cons_of_mem e hmem) with rfl | hover
    · exact calls_eq_nil_or_isOver_of_ne_begin h hne
    · exact .inr (hover.handle e).1

/-! ### The course of the calls -/

/-- A call that only concerns the list: it neither closes the surface nor shows details. -/
def IsListing (call : SurfaceCall) : Prop := call ≠ .close ∧ ∀ detail, call ≠ .showDetail detail

/-- The end of a life: the close, perhaps after the details of an entry. -/
inductive IsEnding : List SurfaceCall → Prop
  | close : IsEnding [.close]
  | detail (detail : Detail) : IsEnding [.showDetail detail, .close]

/-- Before its end, a life is spent on the list. -/
theorem Life.exists_eq_append {life : List SurfaceCall} (h : Life life) :
    ∃ body ending, life = body ++ ending ∧ (∀ call ∈ body, IsListing call) ∧ IsEnding ending := by
  cases h with
  | unopened => exact ⟨[], _, rfl, by simp, .close⟩
  | abandoned | reported | searched => exact ⟨_, _, rfl, by simp [openingCalls, IsListing], .close⟩
  | selected _ detail => exact ⟨_, _, rfl, by simp [openingCalls, IsListing], .detail detail⟩

/-- Until a session is over, its surface only lists. -/
theorem Stands.isListing (h : Stands s calls) (hs : s.phase ≠ .closed) :
    ∀ call ∈ calls, IsListing call := by
  cases h with
  | unopened => simp
  | opened | inert | ready => simp [openingCalls, IsListing]
  | ended _ hover => exact absurd hover.phase hs

/-- The calls of an ending, from any of them on. -/
theorem IsEnding.eq_of_append_cons {rest after : List SurfaceCall} {call : SurfaceCall}
    (h : IsEnding (rest ++ call :: after)) :
    (call = .close → after = []) ∧ ∀ detail, call = .showDetail detail → after = [.close] := by
  generalize heq : rest ++ call :: after = ending at h
  cases h with
  | close =>
    rcases rest with _ | ⟨c, rest⟩
    · obtain ⟨rfl, rfl⟩ := List.cons.inj heq
      simp
    · simp at heq
  | detail detail =>
    rcases rest with _ | ⟨c, _ | ⟨c', rest⟩⟩
    · obtain ⟨rfl, rfl⟩ := List.cons.inj heq
      simp
    · obtain ⟨-, rfl, rfl⟩ : c = .showDetail detail ∧ call = .close ∧ after = [] := by
        simpa using heq
      simp
    · simp at heq

/-- **Nothing follows a close**, and a close follows the details of an entry at once. -/
theorem Stands.eq_of_append_cons {before after : List SurfaceCall} {call : SurfaceCall}
    (h : Stands s calls) (hcalls : calls = before ++ call :: after) :
    (call = .close → after = []) ∧ ∀ detail, call = .showDetail detail → after = [.close] := by
  by_cases hcall : IsListing call
  · exact ⟨fun heq => absurd heq hcall.1, fun detail heq => absurd heq (hcall.2 detail)⟩
  have hmem : call ∈ calls := by simp [hcalls]
  have hp : s.phase = .closed := by
    by_cases hp : s.phase = .closed
    · exact hp
    · exact absurd (h.isListing hp call hmem) hcall
  obtain ⟨body, ending, heq, hbody, hending⟩ := (h.life_of_closed hp).exists_eq_append
  -- a call that does not list belongs to the end
  obtain ⟨rest, rfl⟩ : ∃ rest, ending = rest ++ call :: after := by
    rcases List.append_eq_append_iff.mp (hcalls.symm.trans heq) with
      ⟨rest, hbefore, hrest⟩ | ⟨rest, -, hrest⟩
    · cases rest with
      | nil => exact ⟨[], hrest.symm⟩
      | cons c rest =>
        obtain ⟨rfl, -⟩ := List.cons.inj hrest
        exact absurd (hbody call (by simp [hbefore])) hcall
    · exact ⟨rest, hrest⟩
  exact hending.eq_of_append_cons

/-- The calls of a session are the start of a life. -/
theorem Stands.exists_life (h : Stands s calls) : ∃ life, Life life ∧ calls <+: life := by
  by_cases hp : s.phase = .closed
  · exact ⟨_, h.life_of_closed hp, List.prefix_rfl⟩
  · exact ⟨_, h.life_append_close hp, List.prefix_append _ _⟩

/-- **The calls of a session are the start of a life**, in every history in which it begins at most
once. Nothing follows the close of the surface, and the close follows the details of an entry. -/
theorem calls_run_prefix_life {settings : SessionSettings} (hs : settings.Valid)
    (rendering : Rendering) {es : List Event} (hes : es.count .begin ≤ 1) :
    (∃ life, Life life ∧ ((fresh settings rendering).run es).calls <+: life) ∧
      ∀ before call after,
        ((fresh settings rendering).run es).calls = before ++ call :: after →
          (call = .close → after = []) ∧
            ∀ detail, call = .showDetail detail → after = [.close] := by
  have h : Stands ((fresh settings rendering).run es).state
      ([] ++ ((fresh settings rendering).run es).calls) :=
    stands_run hs (stands_fresh settings rendering) (fun _ => .inl rfl) hes
  rw [List.nil_append] at h
  exact ⟨h.exists_life, fun _ _ _ hcalls => h.eq_of_append_cons hcalls⟩

/-- A session that is asked too early, selects an entry, and meets a second load and a dismissal
when it is over. -/
theorem calls_run_prefix_life_of_selection :
    let s := fresh .standard .console
    let es : List Event :=
      [.changeQuery "a", .begin,
        .settle (.texts ["/** a */\nnative A takes nothing returns nothing"]), .changeQuery " ",
        .select ⟨"A", [], [], false⟩, .settle (.broken "late"), .dismiss]
    (s.run es).calls.length = 7 ∧ (∃ life, Life life ∧ (s.run es).calls <+: life) ∧
      ∀ before call after, (s.run es).calls = before ++ call :: after →
        (call = .close → after = []) ∧ ∀ detail, call = .showDetail detail → after = [.close] :=
  ⟨by decide +kernel,
    calls_run_prefix_life SessionSettings.valid_standard .console (by decide)⟩

end Session

end NativeFinder
