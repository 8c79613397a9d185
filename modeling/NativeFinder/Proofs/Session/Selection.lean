import NativeFinder.Proofs.Session.Coherence

/-!
# Selecting a row

A row is selected by its label: what it opens is the first entry in view with that name, whether the
row is displayed or not. `select_run` says for every history in which the session begins at most
once when a selection gives back an entry, that it then makes two calls and leaves a session that
has let go of everything, and that otherwise nothing happens.

The rows that can be selected are those of the entries in view, one for each and in the same order
(`Coherent.entryRows_eq`): the rows of a ready session are known from `Coherent`, and in any other
phase there are only placeholders (`NoticesOnly`). So if the names in view are different, every row
opens the entry that it was made of.
-/

namespace NativeFinder

/-- **The first entry of a name** in a list. -/
def IsFirstNamed (view : List Entry) (name : Text) (e : Entry) : Prop :=
  e.name = name ∧ ∃ before after, view = before ++ e :: after ∧ ∀ b ∈ before, b.name ≠ name

theorem isFirstNamed_iff_find? {view : List Entry} {name : Text} {e : Entry} :
    IsFirstNamed view name e ↔ view.find? (fun e => e.name == name) = some e := by
  simp [IsFirstNamed, List.find?_eq_some_iff_append]

/-- Where all names are different, every entry is the first of its name. -/
theorem isFirstNamed_of_nodup {view : List Entry} (h : (view.map Entry.name).Nodup) {e : Entry}
    (he : e ∈ view) : IsFirstNamed view e.name e := by
  obtain ⟨before, after, rfl⟩ := List.append_of_mem he
  refine ⟨rfl, before, after, rfl, fun b hb heq => ?_⟩
  rw [List.map_append, List.nodup_append] at h
  exact h.2.2 b.name (List.mem_map_of_mem hb) e.name (by simp) heq

namespace Session

variable {s : Session} {es : List Event} {row : Row} {e : Entry}

/-! ### What a row selects -/

theorem selectable?_eq_some_iff :
    s.selectable? row = some e ↔
      s.phase = .ready ∧ row.placeholder = false ∧ IsFirstNamed s.view row.label e := by
  rw [isFirstNamed_iff_find?]
  by_cases hp : s.phase = .ready <;> cases hrow : row.placeholder <;> simp [selectable?, hp, hrow]

theorem isSome_selectable?_iff :
    (s.selectable? row).isSome ↔
      s.phase = .ready ∧ row.placeholder = false ∧ ∃ e ∈ s.view, e.name = row.label := by
  rw [Option.isSome_iff_exists]
  simp only [selectable?_eq_some_iff, exists_and_left, isFirstNamed_iff_find?,
    ← Option.isSome_iff_exists, List.find?_isSome, beq_iff_eq]

/-- **What a selection gives back** is the entry that the row selects. -/
theorem chosen_select (s : Session) (row : Row) : (s.select row).chosen = s.selectable? row := by
  cases hrow : s.selectable? row <;> simp only [select, hrow]

/-- Selecting a row never fails. -/
theorem error_select (s : Session) (row : Row) : (s.select row).error = none := by
  cases hrow : s.selectable? row with
  | none => simp only [select, hrow]
  | some e => simp only [select, hrow, Step.andThen, choose, dismiss, reduceCtorEq, if_false]

/-! ### Rows that can be selected -/

/-- The displayed rows that are no placeholders. -/
def entryRows (s : Session) : List Row := s.rows.filter fun row => !row.placeholder

/-- Outside the ready phase there are **only placeholders**. -/
def NoticesOnly (s : Session) : Prop :=
  s.phase ≠ .ready → ∀ row ∈ s.rows, row.placeholder = true

theorem IsReport.placeholder (h : IsReport row) : row.placeholder = true := by
  rcases h with rfl | ⟨message, rfl⟩ <;> rfl

/-- **A load that settles** leaves only placeholders, or a session that is ready. -/
theorem noticesOnly_settle (hs : s.settings.Valid) (h : s.NoticesOnly) (outcome : LoadOutcome) :
    (s.settle outcome).session.NoticesOnly := by
  cases hl : s.pending with
  | false =>
    rw [settle_of_not_pending hl]
    exact h
  | true =>
    cases hc : s.isClosed with
    | true =>
      rw [(settle_of_isClosed hc outcome).1]
      exact h
    | false =>
      rcases settle_of_not_isClosed hs hl hc outcome with
        ⟨row, hreport, hsession, -⟩ | ⟨_, _, _, -, -, -, hsession, -⟩
      · rw [hsession]
        intro _ shown hshown
        obtain rfl : shown = row := by simpa using hshown
        exact hreport.placeholder
      · rw [hsession]
        exact fun hne => absurd rfl hne

/-- **One event** keeps it so. -/
theorem NoticesOnly.handle (h : s.NoticesOnly) (hs : s.settings.Valid) (e : Event) :
    (s.handle e).session.NoticesOnly := by
  have hchange : Change s e (s.handle e).session := change_handle hs e
  generalize hafter : (s.handle e).session = after at hchange
  cases hchange with
  | marked => exact h
  | begun => simp [NoticesOnly, Row.loading, Row.notice]
  | reported he =>
    -- which row is shown is known from the load that has settled
    rw [← hafter, he]
    exact noticesOnly_settle hs h _
  | supplied => exact fun hne => absurd rfl hne
  | answered _ hp => exact fun hne => absurd hp hne
  | released => simp [NoticesOnly, released]

theorem noticesOnly_run {settings : SessionSettings} (hs : settings.Valid) (rendering : Rendering)
    (es : List Event) : ((fresh settings rendering).run es).state.NoticesOnly := by
  have h : ((fresh settings rendering).run es).state.settings.Valid ∧
      ((fresh settings rendering).run es).state.NoticesOnly :=
    run_invariant (fun t _ => t.settings.Valid ∧ t.NoticesOnly)
      (fun e _ t _ ht => ⟨(settings_handle t e).symm ▸ ht.1, ht.2.handle ht.1 e⟩)
      ⟨hs, by simp [NoticesOnly, fresh]⟩
  exact h.2

/-- The rendering of a session never changes. -/
theorem rendering_run {settings : SessionSettings} (hs : settings.Valid) (rendering : Rendering)
    (es : List Event) : ((fresh settings rendering).run es).state.rendering = rendering := by
  refine history_invariant hs (fun _ s => s.rendering = rendering) rfl
    fun _ _ _ s s' hrendering hchange => ?_
  cases hchange <;> exact hrendering

/-- **The rows of entries are those of the view**, one for each entry and in the same order. -/
theorem Coherent.entryRows_eq (h : s.Coherent) (hnotices : s.NoticesOnly) :
    s.entryRows = s.view.map Row.ofEntry := by
  have hentries : (s.view.map Row.ofEntry).filter (fun row => !row.placeholder) =
      s.view.map Row.ofEntry := by
    rw [List.filter_eq_self]
    simp [Row.ofEntry]
  by_cases hp : s.phase = .ready
  · rcases (h.ready hp).rows with ⟨hrows, hview⟩ | hrows
    · rw [entryRows, hrows, hview]
      rfl
    · rw [entryRows, hrows, hentries]
  · rw [(h.empty hp).2, List.map_nil, entryRows, List.filter_eq_nil_iff]
    simpa using hnotices hp

/-- **A displayed row** is the row of an entry in view, unless it is a placeholder, and it selects
an entry of its name. -/
theorem Coherent.exists_selectable? (h : s.Coherent) (hp : s.phase = .ready) (hrow : row ∈ s.rows)
    (hnot : row.placeholder = false) :
    ∃ e ∈ s.view, e.name = row.label ∧ s.selectable? row = some e := by
  have hmem : row ∈ s.entryRows := List.mem_filter.mpr ⟨hrow, by simp [hnot]⟩
  rw [h.entryRows_eq fun hne => absurd hp hne] at hmem
  obtain ⟨shown, hshown, rfl⟩ := List.mem_map.mp hmem
  have hsome : (s.selectable? (.ofEntry shown)).isSome :=
    isSome_selectable?_iff.mpr ⟨hp, rfl, shown, hshown, rfl⟩
  obtain ⟨e, he⟩ := Option.isSome_iff_exists.mp hsome
  obtain ⟨-, -, hname, before, after, hview, -⟩ := selectable?_eq_some_iff.mp he
  exact ⟨e, by simp [hview], hname, he⟩

/-- Where all names in view are different, **a row opens the entry that it was made of**. -/
theorem Coherent.exists_selectable?_of_nodup (h : s.Coherent) (hnotices : s.NoticesOnly)
    (hnodup : (s.view.map Entry.name).Nodup) {i : Nat} (hrow : s.entryRows[i]? = some row) :
    ∃ e, s.view[i]? = some e ∧ s.selectable? row = some e := by
  rw [h.entryRows_eq hnotices, List.getElem?_map, Option.map_eq_some_iff] at hrow
  obtain ⟨e, he, rfl⟩ := hrow
  have hmem : e ∈ s.view := List.mem_of_getElem? he
  have hp : s.phase = .ready := by
    by_contra hp
    simp [(h.empty hp).2] at hmem
  exact ⟨e, he, selectable?_eq_some_iff.mpr ⟨hp, rfl, isFirstNamed_of_nodup hnodup hmem⟩⟩

/-! ### Selections in a history -/

/-- **Selecting a row** of any kind after any history in which the session begins at most once. It
gives back an entry exactly if the session is ready, the row is no placeholder, and an entry in view
has its label for a name. Then it is the first such entry: its details are shown, the surface is
closed, and the session is closed and given up and holds nothing any more. Otherwise nothing is
called and nothing changes. The rows of entries are those of the view in the same order, and if its
names are different, each selects the entry in its own place. -/
theorem select_run {settings : SessionSettings} (hs : settings.Valid) (rendering : Rendering)
    {es : List Event} (hes : es.count .begin ≤ 1) :
    let s := ((fresh settings rendering).run es).state
    (∀ row,
      ((s.select row).chosen.isSome ↔
        s.phase = .ready ∧ row.placeholder = false ∧ ∃ e ∈ s.view, e.name = row.label) ∧
      (s.select row).error = none ∧
      (∀ e, (s.select row).chosen = some e →
        IsFirstNamed s.view row.label e ∧
        (s.select row).calls = [.showDetail (rendering.detail e), .close] ∧
        (s.select row).session =
          { s with
            phase := .closed, cancelled := true
            index := none, entries := [], view := [], rows := [] }) ∧
      ((s.select row).chosen = none →
        (s.select row).calls = [] ∧ (s.select row).session = s)) ∧
    s.entryRows = s.view.map Row.ofEntry ∧
    ((s.view.map Entry.name).Nodup → ∀ (i : Nat) (row : Row), s.entryRows[i]? = some row →
      ∃ e, s.view[i]? = some e ∧ (s.select row).chosen = some e) := by
  intro s
  have hcoherent : s.Coherent := (follows_run hs rendering hes).coherent
  have hnotices : s.NoticesOnly := noticesOnly_run hs rendering es
  simp only [chosen_select]
  refine ⟨fun row => ⟨isSome_selectable?_iff, error_select s row, fun e he => ?_, fun hnone => ?_⟩,
    hcoherent.entryRows_eq hnotices,
    fun hnodup i row => hcoherent.exists_selectable?_of_nodup hnotices hnodup⟩
  · obtain ⟨-, hsession, hcalls⟩ := select_of_selectable?_eq_some he
    rw [← rendering_run hs rendering es]
    exact ⟨(selectable?_eq_some_iff.mp he).2.2, hcalls, hsession⟩
  · obtain ⟨hsession, hcalls⟩ := select_of_selectable?_eq_none hnone
    exact ⟨hcalls, hsession⟩

/-- The row of an entry selects another one of the same name, when a query has left only that one in
view. -/
theorem select_run_of_stale_row :
    let es : List Event := [.begin, .settle (.texts
      ["/** one */\nnative Kill takes nothing returns nothing",
        "/** two */\nnative Kill takes nothing returns nothing"]), .changeQuery "two"]
    let shown := ((fresh .standard .console).run (es.take 2)).state
    let s := ((fresh .standard .console).run es).state
    SessionSettings.standard.Valid ∧ es.count .begin ≤ 1 ∧
      ∃ first second, first ≠ second ∧ shown.view = [first, second] ∧ s.view = [second] ∧
        s.entryRows = [.ofEntry second] ∧ (s.select (.ofEntry first)).chosen = some second ∧
        (s.select (.ofEntry first)).calls =
          [.showDetail (Rendering.console.detail second), .close] ∧
        (s.select .noMatches).session = s := by
  intro es shown s
  let first := Entry.build (some "Kill") none none
    "/** one */\nnative Kill takes nothing returns nothing"
  let second := Entry.build (some "Kill") none none
    "/** two */\nnative Kill takes nothing returns nothing"
  have hes : es.count .begin ≤ 1 := by decide
  obtain ⟨hp, hview⟩ : s.phase = .ready ∧ s.view = [second] := by decide +kernel
  have hfirst : (s.select (.ofEntry first)).chosen = some second :=
    (chosen_select s _).trans (selectable?_eq_some_iff.mpr ⟨hp, rfl, rfl, [], [], hview, by simp⟩)
  have hnone : (s.select .noMatches).chosen = none :=
    (chosen_select s _).trans (by simp [selectable?, Row.noMatches, Row.notice])
  obtain ⟨hselect, hrows, -⟩ := select_run SessionSettings.valid_standard .console hes
  obtain ⟨-, -, hsome, -⟩ := hselect (.ofEntry first)
  obtain ⟨-, -, -, hstay⟩ := hselect .noMatches
  refine ⟨SessionSettings.valid_standard, hes, first, second, by decide +kernel,
    by decide +kernel, hview, ?_, hfirst, (hsome second hfirst).2.1, (hstay hnone).2⟩
  rw [hrows, hview]
  rfl

end Session

end NativeFinder
