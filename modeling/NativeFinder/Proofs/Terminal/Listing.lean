import NativeFinder.Proofs.Terminal.Rounds

/-!
# What is shown is what is selected

A row is opened by the number that it has in a table, so the table that the user has seen last must
be the table of the rows that the terminal keeps, and these must be the rows of the session. All
three agree whenever an input is asked for (`opens_row_of_run`), since the rows change only when
they are listed, and they are listed at once when the terminal is not busy. A number then opens the
row in the line that shows it, which is the row of an entry in view, or brings a notice and changes
nothing.
-/

namespace NativeFinder

/-- The table that an event shows. -/
def ScreenEvent.table? : ScreenEvent → Option RowTable
  | .table shown => some shown
  | _ => none

namespace Terminal

variable {α : Type} {display : ScreenEvent → Except MarkupError α} {t : Terminal}

/-- The last table among some events. -/
def lastTable? (events : List ScreenEvent) : Option RowTable :=
  (events.filterMap ScreenEvent.table?).getLast?

/-- What has been **shown ends with the rows** of a session: it is what some events look like, and
the last table among them is the table of the rows. -/
def EndsWithRows (display : ScreenEvent → Except MarkupError α) (shown : List α) (s : Session) :
    Prop :=
  ∃ events, events.map display = shown.map .ok ∧
    lastTable? events = some (RowTable.ofRows s.rows)

theorem lastTable?_append_table (events : List ScreenEvent) (table : RowTable) :
    lastTable? (events ++ [.table table]) = some table := by
  simp [lastTable?, ScreenEvent.table?]

theorem lastTable?_append_of_not_table (events : List ScreenEvent) {later : List ScreenEvent}
    (h : later.filterMap ScreenEvent.table? = []) :
    lastTable? (events ++ later) = lastTable? events := by
  rw [lastTable?, List.filterMap_append, h, List.append_nil, lastTable?]

/-- What a step shows comes behind what has been shown before. -/
theorem map_display_append {events : List ScreenEvent} {shown : List α} {step : Step}
    (h : events.map display = shown.map .ok) (hstep : (step.shown display).2 = none) :
    (events ++ step.events).map display = (shown ++ (step.shown display).1.shown).map .ok := by
  have hall : (showAll display step.events).2 = none :=
    (showAll_snd_eq_none_iff _).mpr ((step.shown_snd_eq_none_iff).mp hstep).2
  rw [List.map_append, h, map_display_of_showAll hall, ← List.map_append]
  rfl

/-- **An input** that does not end the session leaves the rows shown. -/
theorem Outcome.endsWithRows {command : Command} {step : Step} (h : Outcome display t command step)
    (ht : t.IsPrompting) {shown : List α} (hshown : EndsWithRows display shown t.session)
    (hstep : (step.shown display).2 = none) (hopen : step.terminal.surface.closed = false) :
    step.terminal.IsPrompting ∧
      EndsWithRows display (shown ++ (step.shown display).1.shown) step.terminal.session := by
  obtain ⟨events, hevents, hlast⟩ := hshown
  have hmap := map_display_append hevents hstep
  cases h with
  | listed hnext _ hlisted =>
    exact ⟨hnext, _, hmap, by rw [hlisted, lastTable?_append_table]⟩
  | ignored | rejected =>
    exact ⟨ht, _, hmap, (lastTable?_append_of_not_table events rfl).trans hlast⟩
  | ended => cases hopen
  | failed =>
    rw [Step.shown_snd_eq_none_iff] at hstep
    cases hstep.1

/-- A number opens the row in the line of the table that shows it. -/
theorem IsPrompting.handle_of_line (h : t.IsPrompting) {digits : Text} {n j : Nat} {line : TableRow}
    (hne : digits ≠ []) (hn : Numeral.decimalValue? digits = some n)
    (hlength : digits.length ≤ Numeral.digitLimit)
    (hline : (RowTable.ofRows t.session.rows).rows[j]? = some line)
    (hnumber : line.number = .bare (Text.ofNat n)) :
    ∃ row, t.session.rows[j]? = some row ∧ line = .ofNumbered n row ∧
      (∃ e ∈ t.session.view, e.name = row.label ∧ t.session.selectable? row = some e) ∧
        t.handle (.line (':' :: digits)) = t.select row := by
  rw [← h.rows] at hline ⊢
  obtain ⟨row, hrow, -, hnumbered, hfound⟩ := TerminalSurface.numberedRow?_of_line hline hnumber
  refine ⟨row, hrow, hnumbered, (h.exists_selectable? hfound).2, ?_⟩
  rw [handle, ofLine_colon_digits hne (Numeral.isDigit_of_decimalValue? hn),
    obey_open hne hn hlength, hfound, Option.elim_some]

/-- A number that the table does not show brings a notice. -/
theorem IsPrompting.handle_of_no_line (h : t.IsPrompting) {digits : Text} {n : Nat}
    (hne : digits ≠ []) (hn : Numeral.decimalValue? digits = some n)
    (hlength : digits.length ≤ Numeral.digitLimit)
    (hnone : ∀ line ∈ (RowTable.ofRows t.session.rows).rows, line.number ≠ .bare (Text.ofNat n)) :
    t.handle (.line (':' :: digits)) =
        { terminal := t, events := [.markup (unknownNotice (':' :: digits))] } := by
  rw [← h.rows] at hnone
  rw [handle, ofLine_colon_digits hne (Numeral.isDigit_of_decimalValue? hn),
    obey_open hne hn hlength, TerminalSurface.numberedRow?_eq_none hnone, Option.elim_none, reject]

/-- **What is shown is what is selected.** Whenever an input is asked for, in any run of the prompt
on a session that has been started with valid settings, the terminal is not busy, it keeps the rows
of the session, and the last table that has been shown is the table of these rows. A number then
selects the row in the line that shows it, which is that of an entry in view; a number that is not
shown brings one notice, which can be shown, and changes nothing. -/
theorem opens_row_of_run {settings : SessionSettings} (hs : settings.Valid) (rendering : Rendering)
    (outcome : LoadOutcome) (hdisplay : IsReliable display) (inputs : List PromptInput)
    (before after : List (Round α)) (asked : Round α) :
    let start := (started settings rendering outcome).shown display
    start.2 = none ∧
      ((run display start.1 inputs).rounds = before ++ asked :: after →
        let t := asked.terminal
        t.surface.busy = false ∧ t.surface.rows = t.session.rows ∧
          EndsWithRows display ((before ++ [asked]).flatMap Round.shown) t.session ∧
            ∀ digits n, digits ≠ [] → Numeral.decimalValue? digits = some n →
              digits.length ≤ Numeral.digitLimit →
                (∀ (j : Nat) line, (RowTable.ofRows t.session.rows).rows[j]? = some line →
                  line.number = .bare (Text.ofNat n) →
                    ∃ row, t.session.rows[j]? = some row ∧ line = .ofNumbered n row ∧
                      (∃ e ∈ t.session.view, e.name = row.label ∧
                        t.session.selectable? row = some e) ∧
                        t.handle (.line (':' :: digits)) = t.select row) ∧
                ((∀ line ∈ (RowTable.ofRows t.session.rows).rows,
                    line.number ≠ .bare (Text.ofNat n)) →
                  t.handle (.line (':' :: digits)) =
                      { terminal := t, events := [.markup (unknownNotice (':' :: digits))] } ∧
                    ∃ x, display (.markup (unknownNotice (':' :: digits))) = .ok x)) := by
  intro start
  have hstart : start.2 = none := shown_started hs rendering outcome hdisplay
  obtain ⟨hprompting, -, hevents⟩ := isPrompting_started hs rendering outcome
  refine ⟨hstart, fun hrounds => ?_⟩
  have hshown : EndsWithRows display ([] ++ start.1.shown) start.1.terminal.session := by
    refine ⟨[] ++ (started settings rendering outcome).events, map_display_append rfl hstart, ?_⟩
    rw [hevents]
    rfl
  -- every turn that goes on leaves a terminal at the prompt, with its rows shown last
  obtain ⟨h, hrows⟩ := rounds_invariant
    (R := fun shown t => t.IsPrompting ∧ EndsWithRows display shown t.session) []
    (fun shown t input ⟨ht, hrows⟩ hstep hopen =>
      (outcome_handle ht hdisplay input).endsWithRows ht hrows hstep hopen)
    (fun _ => ⟨hprompting, hshown⟩) hrounds
  refine ⟨h.busy, h.rows, hrows, fun digits n hne hn hlength => ⟨fun j line => ?_, fun hnone => ?_⟩⟩
  · exact h.handle_of_line hne hn hlength
  · exact ⟨h.handle_of_no_line hne hn hlength hnone,
      hdisplay.number (ofLine_colon_digits hne (Numeral.isDigit_of_decimalValue? hn))⟩

/-- A run in which a query is answered by one row: this is the row that the next line opens, and
there is no other. -/
theorem opens_row_of_run_of_query :
    let start := (started .standard .console (.texts
      ["/** a */\nnative A takes nothing returns nothing"])).shown CommandLine.draw
    SessionSettings.standard.Valid ∧ IsReliable CommandLine.draw ∧
      ∃ first asked,
        (run CommandLine.draw start.1 [.line " ", .line ":1"]).rounds = [first, asked] ∧
        EndsWithRows CommandLine.draw ([first, asked].flatMap Round.shown) asked.terminal.session ∧
          (∃ row, asked.terminal.session.rows[0]? = some row ∧
            asked.terminal.handle (.line ":1") = asked.terminal.select row) ∧
          (asked.terminal.handle (.line ":7")).terminal = asked.terminal := by
  intro start
  have hlength : (run CommandLine.draw start.1 [.line " ", .line ":1"]).rounds.length = 2 := by
    decide +kernel
  obtain ⟨first, asked, hrounds⟩ := List.length_eq_two.mp hlength
  obtain ⟨line, htable, hnumber⟩ : ∃ line,
      (RowTable.ofRows asked.terminal.session.rows).rows = [line] ∧ line.number = .bare ['1'] := by
    have hnumbers : (run CommandLine.draw start.1 [.line " ", .line ":1"]).rounds[1]?.map
        (fun asked => (RowTable.ofRows asked.terminal.session.rows).rows.map TableRow.number) =
          some [.bare ['1']] := by decide +kernel
    rw [hrounds] at hnumbers
    simpa [List.map_eq_cons_iff] using hnumbers
  obtain ⟨-, hrun⟩ := opens_row_of_run SessionSettings.valid_standard .console (.texts
    ["/** a */\nnative A takes nothing returns nothing"]) isReliable_draw [.line " ", .line ":1"]
      [first] [] asked
  obtain ⟨-, -, hshown, hnumbers⟩ := hrun hrounds
  obtain ⟨row, hrow, -, -, hselect⟩ :=
    (hnumbers ['1'] 1 (by simp) (by decide +kernel) (by decide)).1 0 line (by rw [htable]; rfl)
      hnumber
  obtain ⟨hreject, -⟩ := (hnumbers ['7'] 7 (by simp) (by decide +kernel) (by decide)).2 (by
    rw [htable, List.forall_mem_singleton, hnumber]
    decide)
  exact ⟨SessionSettings.valid_standard, isReliable_draw, first, asked, hrounds, hshown,
    ⟨row, hrow, hselect⟩, congrArg Step.terminal hreject⟩

end Terminal

end NativeFinder
