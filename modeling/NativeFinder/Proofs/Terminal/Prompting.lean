import NativeFinder.Proofs.Terminal.Numbering
import NativeFinder.Proofs.Terminal.Selecting

/-!
# What the prompt makes of an input

While a session is at the prompt, it is ready, or there is nothing to search; the terminal is open,
not busy, and shows the rows of the session (`IsPrompting`). This is so when the session has been
started with valid settings (`isPrompting_started`).

Every input is then answered in one of five ways (`Outcome`, `outcome_handle`): new rows are listed,
nothing happens, the line is rejected by a notice, the session ends, or the prompt breaks off. It
breaks off at a number that cannot be read, at an entry without a panel and at a notice that cannot
be shown (`BreaksOff`). Which notices these are is a matter of the console: a line goes into the
markup of its notice as it is. All that is asked of a console here is that it shows whatever has no
such line in it (`IsReliable`).
-/

namespace NativeFinder

namespace Session

variable {s : Session}

/-! ### Sessions with valid settings -/

theorem error_showEntries (hs : s.settings.Valid) (entries : List Entry) :
    (s.showEntries entries).error = none := by
  obtain ⟨limit, hlimit⟩ := hs.displayLimit
  simp [showEntries, hlimit, showRows]

/-- With valid settings a load settles without an error. -/
theorem error_settle (hs : s.settings.Valid) (hl : s.pending = true) (hc : s.isClosed = false)
    (outcome : LoadOutcome) : (s.settle outcome).error = none := by
  by_cases hnil : outcome.entries = []
  · have hc' : { s with pending := false }.isClosed = false := hc
    cases outcome with
    | texts texts =>
      have hempty : (Entry.ofTexts texts).isEmpty = true := List.isEmpty_iff.mpr hnil
      simp [settle, hl, hc', settleTexts, hempty, becomeInert, showRows]
    | unavailable message | broken message =>
      simp [settle, hl, hc', settleFailure, becomeInert, showRows]
  · obtain ⟨index, hindex, -⟩ := hs.exists_build outcome.entries
    rw [(settle_of_entries_ne_nil hl hc hnil).2.2, takeUp]
    simp only [buildIndex, hindex]
    exact error_showEntries (s := { s with
      pending := false, entries := outcome.entries, index := some index, phase := .ready }) hs _

/-- **After a load** there are rows to select, or there is nothing to search; the rows are set when
the session is not busy any more. -/
theorem rows_settle (hs : s.settings.Valid) (hl : s.pending = true) (hc : s.isClosed = false)
    (outcome : LoadOutcome) :
    (s.settle outcome).session.pending = false ∧
      ((s.settle outcome).session.phase = .ready ∨
        (s.settle outcome).session.phase = .inert ∧
          ∀ row ∈ (s.settle outcome).session.rows, row.placeholder = true) ∧
      (s.settle outcome).calls = [.setBusy false, .setRows (s.settle outcome).session.rows] := by
  -- a load without entries leaves one placeholder, and any other the first entries
  rcases settle_of_not_isClosed hs hl hc outcome with
    ⟨row, hrow, hsession, hcalls⟩ | ⟨_, _, _, -, -, -, hsession, hcalls⟩
  · have hplaceholder : row.placeholder = true := by
      rcases hrow with rfl | ⟨message, rfl⟩ <;> rfl
    rw [hsession]
    exact ⟨rfl, .inr ⟨rfl, by simpa using hplaceholder⟩, hcalls⟩
  · rw [hsession]
    exact ⟨rfl, .inl rfl, hcalls⟩

/-- With valid settings a query is answered without an error. -/
theorem error_changeQuery (hs : s.settings.Valid) (text : Text) :
    (s.changeQuery text).error = none := by
  cases hi : s.index with
  | none => rw [changeQuery_of_index_eq_none hi, stay]
  | some index =>
    by_cases hp : s.phase = .ready
    · obtain ⟨limit, hlimit⟩ := hs.displayLimit
      simp only [changeQuery, hi, hp]
      split
      · rfl
      · split <;> simp [Step.andThen, showRows, showEntries, hlimit, stay]
    · rw [changeQuery_of_phase_ne hp, stay]

end Session

/-- What an input asks for: the wish to stop ends the session. -/
def PromptInput.command : PromptInput → Terminal.Command
  | .line text => Terminal.Command.ofLine text
  | .stop => .quit

namespace Terminal

variable {α : Type} {display : ScreenEvent → Except MarkupError α} {t : Terminal} {text : Text}

/-! ### Terminals at the prompt -/

/-- A terminal whose session is **at the prompt**. -/
structure IsPrompting (t : Terminal) : Prop where
  settings : t.session.settings.Valid
  coherent : t.session.Coherent
  pending : t.session.pending = false
  phase : t.session.phase = .ready ∨
    t.session.phase = .inert ∧ ∀ row ∈ t.session.rows, row.placeholder = true
  rows : t.surface.rows = t.session.rows
  busy : t.surface.busy = false
  closed : t.surface.closed = false

theorem IsPrompting.phase_ne (h : t.IsPrompting) : t.session.phase ≠ .closed := by
  rcases h.phase with hp | ⟨hp, -⟩ <;> simp [hp]

theorem ofSessionStep_eq {step : Session.Step} {surface : TerminalSurface}
    {events : List ScreenEvent}
    (hcalls : t.surface.answerAll step.calls = (surface, events, none))
    (herror : step.error = none) :
    t.ofSessionStep step =
      { terminal := { session := step.session, surface }, events, logs := step.logs } := by
  simp [ofSessionStep, hcalls, herror]

/-- **A started session** is at the prompt, and its rows are what has been shown last. -/
theorem isPrompting_started {settings : SessionSettings} (hs : settings.Valid)
    (rendering : Rendering) (outcome : LoadOutcome) :
    let step := started settings rendering outcome
    step.terminal.IsPrompting ∧ step.error = none ∧
      step.events =
        [.busyShown, .busyHidden, .table (RowTable.ofRows step.terminal.session.rows)] := by
  intro step
  let before := (Session.fresh settings rendering).begin.session
  have hcoherent : (before.settle outcome).session.Coherent :=
    (Session.follows_run hs rendering
      (show [Session.Event.begin, .settle outcome].count .begin ≤ 1 by simp)).coherent
  have hvalid : (before.settle outcome).session.settings.Valid :=
    (Session.settings_handle before (.settle outcome)).symm ▸ hs
  have herror : (before.settle outcome).error = none := Session.error_settle hs rfl rfl outcome
  obtain ⟨hpending, hphase, hcalls⟩ := Session.rows_settle (s := before) hs rfl rfl outcome
  have hanswer : TerminalSurface.fresh.answerAll
      (Session.openingCalls ++ (before.settle outcome).calls) =
        (⟨(before.settle outcome).session.rows, false, false⟩,
          [.busyShown, .busyHidden,
            .table (RowTable.ofRows (before.settle outcome).session.rows)], none) := by
    rw [hcalls]
    rfl
  have hstep : step = _ :=
    ofSessionStep_eq (t := ⟨Session.fresh settings rendering, .fresh⟩) hanswer herror
  rw [hstep]
  exact ⟨⟨hvalid, hcoherent, hpending, hphase, rfl, rfl, rfl⟩, rfl, rfl⟩

/-! ### Commands -/

/-- A way to show events that is **reliable**: it fails at nothing but notices, and not at the
notice about a number. -/
structure IsReliable (display : ScreenEvent → Except MarkupError α) : Prop where
  other : ∀ event, (∀ s, event ≠ .markup s) → ∃ x, display event = .ok x
  number : ∀ {text digits line}, Command.ofLine text = .open digits line →
    ∃ x, display (.markup (unknownNotice line)) = .ok x

/-- The commands at which the prompt **breaks off**, on a console that shows events by `display`. -/
inductive BreaksOff (display : ScreenEvent → Except MarkupError α) (t : Terminal) : Command → Prop
  /-- Some digit is not a decimal one. -/
  | malformed {digits line : Text} (h : Numeral.decimalValue? digits = none) :
      BreaksOff display t (.open digits line)
  | tooLong {digits line : Text} (h : Numeral.digitLimit < digits.length) :
      BreaksOff display t (.open digits line)
  /-- The row with the number is that of an entry without a panel. -/
  | panel {digits line : Text} {n : Nat} {row : Row} {e : Entry}
      (hn : Numeral.decimalValue? digits = some n) (hrow : t.surface.numberedRow? n = some row)
      (he : t.session.selectable? row = some e)
      (hpanel : ∀ panel, (t.session.rendering.detail e).panel ≠ .ok panel) :
      BreaksOff display t (.open digits line)
  /-- The notice that the line is no command cannot be shown itself. -/
  | notice {line : Text} (h : ∀ x, display (.markup (unknownNotice line)) ≠ .ok x) :
      BreaksOff display t (.unknown line)

/-- What a terminal at the prompt makes of a command. -/
inductive Outcome (display : ScreenEvent → Except MarkupError α) (t : Terminal)
    (command : Command) : Step → Prop
  | listed {step : Step} (hnext : step.terminal.IsPrompting) (herror : step.error = none)
      (hevents : step.events = [.table (RowTable.ofRows step.terminal.session.rows)])
      (h : ¬ BreaksOff display t command) : Outcome display t command step
  | ignored (h : ¬ BreaksOff display t command) : Outcome display t command { terminal := t }
  /-- The line is rejected. Whether the notice can be shown is not known before it is tried. -/
  | rejected {line : Text}
      (h : BreaksOff display t command ↔ ∀ x, display (.markup (unknownNotice line)) ≠ .ok x) :
      Outcome display t command (t.reject line)
  | ended {events : List ScreenEvent} (hevents : events = [] ∨ ∃ panel, events = [.panel panel])
      (h : ¬ BreaksOff display t command) :
      Outcome display t command { terminal := t.ended, events }
  | failed {session : Session} {error : TerminalError} (hphase : session.phase ≠ .closed)
      (h : BreaksOff display t command) :
      Outcome display t command { terminal := { t with session }, error := some error }

theorem closingEvents_eq_nil (h : t.IsPrompting) : t.closingEvents = [] := by
  simp [closingEvents, h.busy]

/-- **A query** is answered by new rows, or ignored if there is nothing to search. -/
theorem outcome_query (h : t.IsPrompting) (text : Text) :
    Outcome display t (.query text) (t.obey (.query text)) := by
  have hbreaks : ¬ BreaksOff display t (.query text) := fun hbreaks => by cases hbreaks
  by_cases hp : t.session.phase = .ready
  · obtain ⟨index, hi, -⟩ := (h.coherent.ready hp).indexed
    obtain ⟨view, rows, hsession, hcalls⟩ :=
      Session.changeQuery_of_ready h.settings hi hp text
    have hcoherent : (t.session.changeQuery text).session.Coherent :=
      (Session.change_handle h.settings (.changeQuery text)).coherent h.coherent
        (fun he => nomatch he) fun hl => by simp [h.pending] at hl
    have hanswer : t.surface.answerAll (t.session.changeQuery text).calls =
        ({ t.surface with rows }, [.table (RowTable.ofRows rows)], none) := by
      simp [hcalls, TerminalSurface.answerAll, TerminalSurface.answer, h.busy]
    have hstep : t.obey (.query text) = _ :=
      ofSessionStep_eq hanswer (Session.error_changeQuery h.settings text)
    rw [hsession] at hcoherent hstep
    rw [hstep]
    exact .listed ⟨h.settings, hcoherent, h.pending, .inl hp, rfl, h.busy, h.closed⟩ rfl rfl hbreaks
  · have hstep : t.obey (.query text) = { terminal := t } := by
      rw [obey, changeQuery, Session.changeQuery_of_phase_ne hp]
      rfl
    rw [hstep]
    exact .ignored hbreaks

/-- The end of the session. -/
theorem outcome_quit (h : t.IsPrompting) : Outcome display t .quit (t.obey .quit) := by
  have hstep : t.obey .quit = { terminal := t.ended, events := [] } := by
    rw [obey, dismiss_of_phase_ne h.phase_ne, closingEvents_eq_nil h]
  rw [hstep]
  exact .ended (.inl rfl) fun hbreaks => by cases hbreaks

/-- The row with a number is selected, or there is none and the line is rejected. -/
theorem obey_open {digits line : Text} {n : Nat} (hne : digits ≠ [])
    (hn : Numeral.decimalValue? digits = some n) (hlength : digits.length ≤ Numeral.digitLimit) :
    t.obey (.open digits line) = (t.surface.numberedRow? n).elim (t.reject line) t.select := by
  have hparse : Numeral.parseInt digits = .ok n := by
    rw [Numeral.parseInt_of_isDigit hne (Numeral.isDigit_of_decimalValue? hn), hn]
    exact if_neg (Nat.not_lt.mpr hlength)
  rw [obey, hparse]
  cases h : t.surface.numberedRow? n <;> simp [h]

/-- A number that is not in the table is rejected, and a row that is in the table is that of an
entry. -/
theorem IsPrompting.exists_selectable? (h : t.IsPrompting) {n : Nat} {row : Row}
    (hrow : t.surface.numberedRow? n = some row) :
    t.session.phase = .ready ∧
      ∃ e ∈ t.session.view, e.name = row.label ∧ t.session.selectable? row = some e := by
  obtain ⟨hmem, hnot⟩ : row ∈ t.session.rows ∧ row.placeholder = false := by
    rw [← h.rows]
    cases n with
    | zero => cases hrow
    | succ k => simpa using List.mem_filter.mp (List.mem_of_getElem? hrow)
  rcases h.phase with hp | ⟨-, hplaceholder⟩
  · exact ⟨hp, h.coherent.exists_selectable? hp hmem hnot⟩
  · rw [hplaceholder row hmem] at hnot
    cases hnot

/-- A number that can be read is broken off at only if its row is that of an entry without a
panel. -/
theorem breaksOff_open_iff {digits line : Text} {n : Nat}
    (hn : Numeral.decimalValue? digits = some n) (hlength : digits.length ≤ Numeral.digitLimit) :
    BreaksOff display t (.open digits line) ↔
      ∃ row e, t.surface.numberedRow? n = some row ∧ t.session.selectable? row = some e ∧
        ∀ panel, (t.session.rendering.detail e).panel ≠ .ok panel := by
  constructor
  · rintro (hnone | hlong | ⟨hn', hrow, he, hpanel⟩)
    · simp [hn] at hnone
    · omega
    · obtain rfl := Option.some.inj (hn.symm.trans hn')
      exact ⟨_, _, hrow, he, hpanel⟩
  · rintro ⟨row, e, hrow, he, hpanel⟩
    exact .panel hn hrow he hpanel

/-- **A number** opens its row or is rejected, unless it cannot be read or the row has no panel. -/
theorem outcome_open (h : t.IsPrompting) (hdisplay : IsReliable display) {digits line : Text}
    (hopen : Command.ofLine text = .open digits line) :
    Outcome display t (.open digits line) (t.obey (.open digits line)) := by
  obtain ⟨hne, hdigits, -⟩ := of_ofLine_eq_open hopen
  have hparse := Numeral.parseInt_of_isDigit hne hdigits
  cases hn : Numeral.decimalValue? digits with
  | none =>
    rw [obey, hparse, hn]
    exact @Outcome.failed _ _ t _ t.session _ h.phase_ne (.malformed hn)
  | some n =>
    by_cases hlength : digits.length ≤ Numeral.digitLimit
    · rw [obey_open hne hn hlength]
      cases hrow : t.surface.numberedRow? n with
      | none =>
        have hbreaks : ¬ BreaksOff display t (.open digits line) := by
          simp [breaksOff_open_iff hn hlength, hrow]
        obtain ⟨x, hx⟩ := hdisplay.number hopen
        exact .rejected (iff_of_false hbreaks fun hnone => hnone x hx)
      | some row =>
        obtain ⟨-, e, -, -, he⟩ := h.exists_selectable? hrow
        cases hpanel : (t.session.rendering.detail e).panel with
        | ok panel =>
          have hbreaks : ¬ BreaksOff display t (.open digits line) := by
            simp [breaksOff_open_iff hn hlength, hrow, he, hpanel]
          rw [Option.elim_some, select_of_panel_eq_ok he hpanel, closingEvents_eq_nil h]
          exact .ended (.inr ⟨panel, rfl⟩) hbreaks
        | error error =>
          rw [Option.elim_some, select_of_panel_eq_error he hpanel]
          exact .failed (by simp) (.panel hn hrow he (by simp [hpanel]))
    · have hlong : Numeral.digitLimit < digits.length := Nat.lt_of_not_le hlength
      simp only [obey, hparse, hn, if_pos hlong]
      exact @Outcome.failed _ _ t _ t.session _ h.phase_ne (.tooLong hlong)

theorem handle_eq_obey (t : Terminal) (input : PromptInput) :
    t.handle input = t.obey input.command := by
  cases input <;> rfl

/-- **Every input** has one of the outcomes. -/
theorem outcome_handle (h : t.IsPrompting) (hdisplay : IsReliable display) (input : PromptInput) :
    Outcome display t input.command (t.handle input) := by
  rw [handle_eq_obey]
  cases hcommand : input.command with
  | query text => exact outcome_query h text
  | quit => exact outcome_quit h
  | «open» digits line =>
    cases input with
    | line text => exact outcome_open h hdisplay hcommand
    | stop => cases hcommand
  | unknown line =>
    refine .rejected ⟨fun hbreaks => ?_, .notice⟩
    cases hbreaks with
    | notice h => exact h

end Terminal

end NativeFinder
