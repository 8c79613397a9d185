import NativeFinder.Proofs.Session.History
import Mathlib.Data.List.Induction

/-!
# How an event changes a session

`Change` lists what an event can make of a session with valid settings: it takes no more than a
mark, or it begins, reports that there is nothing to search, is supplied with entries, answers a
query, or lets go of everything. `change_handle` says that there is nothing else, so that an
invariant of sessions is proved over these six cases and never looks at an event again.

A query is answered from the entries and the index alone (`changeQuery_eq_answered`), whatever was
shown before, so that of several queries only the last one counts (`state_run_changeQuery`).
-/

namespace NativeFinder

namespace Session

variable {s : Session} {limit : Limit} {index : Index}

/-! ### Answers to queries -/

/-- A session that shows the answers to a query within a limit. -/
def answered (s : Session) (limit : Limit) (index : Index) (text : Text) : Session :=
  let found := s.answers index text
  { s with
    query := text
    view := limit.apply found
    rows :=
      if found.isEmpty && !text.trim.isEmpty then [Row.noMatches]
      else (limit.apply found).map Row.ofEntry }

/-- **A query is answered** from the entries and the index. -/
theorem changeQuery_eq_answered (hlimit : Limit.ofValue? s.settings.displayLimit = some limit)
    (hi : s.index = some index) (hp : s.phase = .ready) (text : Text) :
    (s.changeQuery text).session = s.answered limit index text := by
  -- the answers do not depend on the phase and the query, which change before
  have hanswers (s' : Session) (hs' : s'.entries = s.entries) :
      s'.answers index text = s.answers index text := by rw [answers, answers, hs']
  simp only [changeQuery, hi, hp, bne_self_eq_false, Bool.false_eq_true, if_false, hanswers,
    answered]
  cases hnone : (s.answers index text).isEmpty && !text.trim.isEmpty with
  | true =>
    obtain ⟨hnil, -⟩ : s.answers index text = [] ∧ text.trim ≠ [] := by simpa using hnone
    simp [hnil, limit.apply_nil, Step.andThen, showRows, stay]
  | false => simp [showEntries, hlimit, showRows, Step.andThen, stay]

/-- Only the last of two queries counts. -/
theorem answered_answered (text text' : Text) :
    (s.answered limit index text).answered limit index text' = s.answered limit index text' := rfl

/-- **Of several queries** only the last one counts. -/
theorem state_run_changeQuery (hlimit : Limit.ofValue? s.settings.displayLimit = some limit)
    (hi : s.index = some index) (hp : s.phase = .ready) (queries : List Text) (text : Text) :
    (s.run ((queries ++ [text]).map .changeQuery)).state = s.answered limit index text := by
  induction queries generalizing s with
  | nil => exact changeQuery_eq_answered hlimit hi hp text
  | cons first queries ih =>
    rw [List.cons_append, List.map_cons, state_run_cons, handle,
      changeQuery_eq_answered hlimit hi hp first, ← answered_answered first text]
    exact ih (s := s.answered limit index first) hlimit hi hp

/-! ### Entries of a load -/

/-- A session that has taken up the entries of a load and shows them within a limit. -/
def supplied (s : Session) (limit : Limit) (index : Index) (entries : List Entry) : Session :=
  { s with
    phase := .ready, pending := false, entries, index := some index
    view := limit.apply entries, rows := (limit.apply entries).map Row.ofEntry }

theorem settle_eq_supplied (hlimit : Limit.ofValue? s.settings.displayLimit = some limit)
    {outcome : LoadOutcome} (hbuild : s.buildIndex outcome.entries = .ok index)
    (hne : outcome.entries ≠ []) (hl : s.pending = true) (hc : s.isClosed = false) :
    (s.settle outcome).session = s.supplied limit index outcome.entries := by
  have hbuild' : { s with pending := false, entries := outcome.entries }.buildIndex
      outcome.entries = .ok index := hbuild
  rw [(settle_of_entries_ne_nil hl hc hne).1]
  simp only [takeUp, hbuild', showEntries, hlimit, showRows, supplied]

/-! ### All events -/

/-- The outcome that an event brings, if it settles a load. -/
def Event.outcome? : Event → Option LoadOutcome
  | .settle outcome => some outcome
  | .begin | .changeQuery _ | .select _ | .dismiss | .cancel => none

/-- How an event **changes** a session. -/
inductive Change (s : Session) (e : Event) : Session → Prop
  /-- At most it is given up, or no longer waits for its load. -/
  | marked (cancelled pending : Bool) (hc : s.cancelled = true → cancelled = true)
      (hl : pending = true → s.pending = true ∧ e.outcome? = none) :
      Change s e { s with cancelled, pending }
  | begun (he : e = .begin) (hc : s.isClosed = false) :
      Change s e { s with phase := .loading, pending := true, rows := [Row.loading] }
  | reported {outcome : LoadOutcome} (he : e = .settle outcome) (hl : s.pending = true)
      (hc : s.isClosed = false) (row : Row) :
      Change s e { s with phase := .inert, pending := false, rows := [row] }
  | supplied {outcome : LoadOutcome} (he : e = .settle outcome) (hl : s.pending = true)
      (hc : s.isClosed = false) (hne : outcome.entries ≠ []) {limit : Limit} {index : Index}
      (hlimit : Limit.ofValue? s.settings.displayLimit = some limit)
      (hbuild : s.buildIndex outcome.entries = .ok index) :
      Change s e (s.supplied limit index outcome.entries)
  | answered {text : Text} (he : e = .changeQuery text) (hp : s.phase = .ready) {limit : Limit}
      {index : Index} (hlimit : Limit.ofValue? s.settings.displayLimit = some limit)
      (hi : s.index = some index) : Change s e (s.answered limit index text)
  | released (he : e.outcome? = none) (hp : s.phase ≠ .closed) : Change s e s.released

/-- A session that stays as it is. -/
theorem change_self {e : Event} (he : e.outcome? = none) : Change s e s :=
  .marked s.cancelled s.pending id fun hl => ⟨hl, he⟩

theorem change_settle (hs : s.settings.Valid) (outcome : LoadOutcome) :
    Change s (.settle outcome) (s.settle outcome).session := by
  cases hl : s.pending with
  | false =>
    rw [settle_of_not_pending hl]
    exact .marked s.cancelled s.pending id (by simp [hl])
  | true =>
    cases hc : s.isClosed with
    | true =>
      rw [(settle_of_isClosed hc outcome).1]
      exact .marked s.cancelled false id (by simp)
    | false =>
      by_cases hnil : outcome.entries = []
      · obtain ⟨row, -, hsession, -⟩ := settle_of_entries_eq_nil hl hc hnil
        rw [hsession]
        exact .reported rfl hl hc row
      · obtain ⟨limit, hlimit⟩ := hs.displayLimit
        obtain ⟨index, hbuild, -⟩ := hs.exists_build outcome.entries
        rw [settle_eq_supplied hlimit hbuild hnil hl hc]
        exact .supplied rfl hl hc hnil hlimit hbuild

/-- **Every event** changes a session in one of these ways. -/
theorem change_handle (hs : s.settings.Valid) (e : Event) : Change s e (s.handle e).session := by
  cases e with
  | begin =>
    rw [handle]
    cases hc : s.isClosed with
    | true =>
      rw [begin_of_isClosed hc]
      exact change_self rfl
    | false =>
      rw [begin_of_not_isClosed hc]
      exact .begun rfl hc
  | settle outcome => exact change_settle hs outcome
  | changeQuery text =>
    rw [handle]
    by_cases hp : s.phase = .ready
    · cases hi : s.index with
      | none =>
        rw [changeQuery_of_index_eq_none hi]
        exact change_self rfl
      | some index =>
        obtain ⟨limit, hlimit⟩ := hs.displayLimit
        rw [changeQuery_eq_answered hlimit hi hp]
        exact .answered rfl hp hlimit hi
    · rw [changeQuery_of_phase_ne hp]
      exact change_self rfl
  | select row =>
    rw [handle]
    cases hrow : s.selectable? row with
    | none =>
      rw [(select_of_selectable?_eq_none hrow).1]
      exact change_self rfl
    | some entry =>
      obtain ⟨hp, hsession, -⟩ := select_of_selectable?_eq_some hrow
      rw [hsession]
      exact .released rfl (by simp [hp])
  | dismiss =>
    rw [handle]
    by_cases hp : s.phase = .closed
    · rw [dismiss_of_closed hp]
      exact change_self rfl
    · rw [dismiss_of_phase_ne hp]
      exact .released rfl hp
  | cancel =>
    exact .marked true s.pending (fun _ => rfl) fun hl => ⟨hl, rfl⟩

/-! ### Histories -/

/-- What relates the events so far to the session, and goes on doing so with every change, relates a
whole history to the session at its end. -/
theorem history_invariant {settings : SessionSettings} (hs : settings.Valid)
    {rendering : Rendering} (R : List Event → Session → Prop) {es : List Event}
    (hfresh : R [] (fresh settings rendering))
    (hstep : ∀ past e, past ++ [e] <+: es → ∀ s s', R past s → Change s e s' →
      R (past ++ [e]) s') :
    R es ((fresh settings rendering).run es).state := by
  -- by induction on the initial parts of the history, from their last event
  suffices h : ∀ past, past <+: es → R past ((fresh settings rendering).run past).state from
    h es List.prefix_rfl
  intro past
  induction past using List.reverseRecOn with
  | nil => exact fun _ => hfresh
  | append_singleton past e ih =>
    intro hpast
    rw [state_run_append]
    refine hstep past e hpast _ _ (ih ((past.prefix_append [e]).trans hpast)) (change_handle ?_ e)
    rw [settings_run]
    exact hs

/-! ### Sessions that are ready -/

/-- A session that holds the entries of a load, with an index over them. -/
structure IsSupplied (s : Session) (outcome : LoadOutcome) : Prop where
  entries_eq : s.entries = outcome.entries
  entries_ne_nil : s.entries ≠ []
  indexed : ∃ index, s.index = some index ∧ s.buildIndex s.entries = .ok index

/-- Only texts bring entries. -/
theorem IsSupplied.exists_eq_texts {outcome : LoadOutcome} (h : s.IsSupplied outcome) :
    ∃ texts, outcome = .texts texts ∧ s.entries = Entry.ofTexts texts := by
  have hne : outcome.entries ≠ [] := h.entries_eq ▸ h.entries_ne_nil
  cases outcome with
  | texts ts => exact ⟨ts, rfl, h.entries_eq⟩
  | unavailable | broken => exact absurd rfl hne

/-- **A session becomes ready** when it is supplied, and keeps its entries and its index as long as
it stays so. -/
theorem Change.ready_cases {e : Event} {s' : Session} (h : Change s e s') (hp : s'.phase = .ready) :
    (s.phase = .ready ∧ ∀ outcome, s.IsSupplied outcome → s'.IsSupplied outcome) ∨
      ∃ outcome, e = .settle outcome ∧ s.pending = true ∧ s'.IsSupplied outcome := by
  cases h with
  | marked => exact .inl ⟨hp, fun _ hs => ⟨hs.entries_eq, hs.entries_ne_nil, hs.indexed⟩⟩
  | begun | reported | released => cases hp
  | supplied he hl _ hne _ hbuild => exact .inr ⟨_, he, hl, rfl, hne, _, rfl, hbuild⟩
  | answered _ hready =>
    exact .inl ⟨hready, fun _ hs => ⟨hs.entries_eq, hs.entries_ne_nil, hs.indexed⟩⟩

/-- **A load is waited for** from the beginning to the event that settles it. -/
theorem Change.pending_cases {e : Event} {s' : Session} (h : Change s e s')
    (hl : s'.pending = true) :
    (e = .begin ∧ s'.phase = .loading) ∨
      s.pending = true ∧ e.outcome? = none ∧ (s'.phase = .ready → s.phase = .ready) := by
  cases h with
  | marked _ _ _ hmark => exact .inr ⟨(hmark hl).1, (hmark hl).2, id⟩
  | begun he => exact .inl ⟨he, rfl⟩
  | reported | supplied => cases hl
  | answered he hp => exact .inr ⟨hl, by rw [he]; rfl, fun _ => hp⟩
  | released he => exact .inr ⟨hl, he, fun hp => by cases hp⟩

/-- **A ready session** holds the entries of a load that has settled. -/
theorem exists_isSupplied_of_ready {settings : SessionSettings} (hs : settings.Valid)
    {rendering : Rendering} {es : List Event}
    (hp : ((fresh settings rendering).run es).state.phase = .ready) :
    ∃ outcome, .settle outcome ∈ es ∧
      ((fresh settings rendering).run es).state.IsSupplied outcome := by
  refine history_invariant hs
    (fun es s => s.phase = .ready → ∃ outcome, .settle outcome ∈ es ∧ s.IsSupplied outcome)
    (fun hp => by cases hp) (fun past e _ s s' ih hchange hp => ?_) hp
  rcases hchange.ready_cases hp with ⟨hready, hkeep⟩ | ⟨outcome, rfl, -, hsupplied⟩
  · obtain ⟨outcome, hmem, hsupplied⟩ := ih hready
    exact ⟨outcome, List.mem_append_left _ hmem, hkeep outcome hsupplied⟩
  · exact ⟨outcome, by simp, hsupplied⟩

end Session

end NativeFinder
