import NativeFinder.CommandLine.Dialogue
import NativeFinder.Proofs.Terminal.Prompting

/-!
# Runs of the prompt

A run asks for inputs until the terminal is closed, and each time it answers the input and shows
what that has brought about. What is shown can fail, so a run ends in one of two ways: in good
order, with the session over and the terminal closed, or in the middle, when the prompt breaks off.

`isOrderly_run` says for every run that the inputs are answered one after another, that none is
asked for when the session is over, and that the run ends in good order exactly if the prompt breaks
off at none of the inputs it has asked for. There are inputs at which it does, such as a superscript
after the colon (`exists_run_broken_off`).
-/

namespace NativeFinder

namespace Terminal

variable {α : Type} {display : ScreenEvent → Except MarkupError α} {t : Terminal}

/-! ### Showing events -/

/-- The console shows markup exactly if it can be read. -/
theorem exists_draw_markup_iff (s : Text) : (∃ x, CommandLine.draw (.markup s) = .ok x) ↔
    ∃ styled, Styled.ofMarkup s = .ok styled := by
  cases h : Styled.ofMarkup s <;> simp [CommandLine.draw, h, Except.map]

/-- The console is reliable. -/
theorem isReliable_draw : IsReliable CommandLine.draw where
  other event h := by
    cases event with
    | markup s => exact absurd rfl (h s)
    | busyShown | busyHidden | table | panel => exact ⟨_, rfl⟩
  number hopen := (exists_draw_markup_iff _).mpr (exists_ofMarkup_notice_open hopen)

theorem showAll_snd_eq_none_iff (events : List ScreenEvent) :
    (showAll display events).2 = none ↔ ∀ event ∈ events, ∃ x, display event = .ok x := by
  induction events with
  | nil => simp [showAll]
  | cons event events ih =>
    rw [showAll, List.forall_mem_cons, ← ih]
    cases h : display event <;> simp

/-- Without a failure, everything is shown. -/
theorem map_display_of_showAll {events : List ScreenEvent} (h : (showAll display events).2 = none) :
    events.map display = (showAll display events).1.map .ok := by
  induction events with
  | nil => rfl
  | cons event events ih =>
    rw [showAll] at h ⊢
    cases hevent : display event with
    | error e => simp [hevent] at h
    | ok x =>
      simp only [hevent] at h ⊢
      rw [List.map_cons, List.map_cons, hevent, ih h]

theorem Step.shown_snd_eq_none_iff (step : Step) :
    (step.shown display).2 = none ↔
      step.error = none ∧ ∀ event ∈ step.events, ∃ x, display event = .ok x := by
  rw [← showAll_snd_eq_none_iff]
  cases h : (showAll display step.events).2 <;> simp [Step.shown, h]

/-- **A step can be shown** exactly if the prompt does not break off. -/
theorem Outcome.shown_snd_eq_none_iff {command : Command} {step : Step}
    (h : Outcome display t command step) (hdisplay : IsReliable display) :
    (step.shown display).2 = none ↔ ¬ BreaksOff display t command := by
  rw [Step.shown_snd_eq_none_iff]
  cases h with
  | listed _ herror hevents hbreaks =>
    refine iff_of_true ⟨herror, ?_⟩ hbreaks
    simpa [hevents] using hdisplay.other _ (by simp)
  | ignored hbreaks => exact iff_of_true ⟨rfl, by simp⟩ hbreaks
  | rejected hbreaks =>
    simp only [reject, true_and, List.mem_singleton, forall_eq, hbreaks]
    simp
  | ended hevents hbreaks =>
    refine iff_of_true ⟨rfl, ?_⟩ hbreaks
    rcases hevents with rfl | ⟨panel, rfl⟩
    · simp
    · simpa using hdisplay.other _ (by simp)
  | failed _ hbreaks => simp [hbreaks]

/-! ### The end of a run -/

/-- A terminal whose session is over and whose surface is closed. -/
structure IsClosed (t : Terminal) : Prop where
  session : t.session.phase = .closed
  surface : t.surface.closed = true

/-- A terminal whose session is not over and whose surface is not closed. -/
structure IsOpen (t : Terminal) : Prop where
  session : t.session.phase ≠ .closed
  surface : t.surface.closed = false

theorem IsPrompting.isOpen (h : t.IsPrompting) : t.IsOpen := ⟨h.phase_ne, h.closed⟩

theorem isClosed_ended (t : Terminal) : t.ended.IsClosed := ⟨rfl, rfl⟩

/-- After an input the prompt goes on, or the session is over. -/
theorem Outcome.isPrompting_or_isClosed {command : Command} {step : Step}
    (h : Outcome display t command step) (ht : t.IsPrompting)
    (hbreaks : ¬ BreaksOff display t command) :
    step.terminal.IsPrompting ∨ step.terminal.IsClosed := by
  cases h with
  | listed hnext => exact .inl hnext
  | ignored | rejected => exact .inl ht
  | ended => exact .inr (isClosed_ended t)
  | failed _ h => exact absurd h hbreaks

/-- Where the prompt breaks off, neither the session is over nor the terminal closed. -/
theorem Outcome.isOpen {command : Command} {step : Step} (h : Outcome display t command step)
    (ht : t.IsPrompting) (hbreaks : BreaksOff display t command) : step.terminal.IsOpen := by
  cases h with
  | listed _ _ _ h | ignored h | ended _ h => exact absurd hbreaks h
  | rejected => exact ht.isOpen
  | failed hphase => exact ⟨hphase, ht.closed⟩

/-! ### Orderly runs -/

/-- Inputs, and the wish to stop that comes by itself behind them. -/
def withStop (inputs : List PromptInput) : List PromptInput := inputs ++ [.stop]

/-- A terminal, and what inputs make of it one after another. -/
def states (t : Terminal) (inputs : List PromptInput) : List Terminal :=
  inputs.scanl (fun t input => (t.handle input).terminal) t

theorem states_nil (t : Terminal) : t.states [] = [t] := rfl

theorem states_cons (t : Terminal) (input : PromptInput) (inputs : List PromptInput) :
    t.states (input :: inputs) = t :: (t.handle input).terminal.states inputs := by
  simp [states]

/-- A run that is **orderly**, on a console that shows events by `display`. -/
structure Run.IsOrderly (display : ScreenEvent → Except MarkupError α) (run : Run α)
    (start : Terminal) (inputs : List PromptInput) : Prop where
  /-- The inputs are answered one by one. -/
  states : (run.rounds ++ [run.last]).map Round.terminal =
    (start.states (withStop inputs)).take (run.rounds.length + 1)
  /-- One input is taken each time. -/
  length_le : run.rounds.length ≤ (withStop inputs).length
  unread : run.unread = inputs.length - run.rounds.length
  /-- Nothing is asked for when the session is over. -/
  isOpen : ∀ round ∈ run.rounds, round.terminal.IsOpen
  /-- The run ends with an error exactly if the prompt breaks off. -/
  error : run.error = none ↔
    ∀ p ∈ run.rounds.zip (withStop inputs), ¬ BreaksOff display p.1.terminal p.2.command
  /-- It ends in good order or in the middle. -/
  last : if run.error = none then run.last.terminal.IsClosed else run.last.terminal.IsOpen

variable {round next : Round α} {inputs later : List PromptInput} {input : PromptInput}

/-- When the session is over, nothing is asked for. -/
theorem isOrderly_ended (h : round.terminal.IsClosed) :
    (Run.ended round [] none inputs.length).IsOrderly display round.terminal inputs := by
  have hstates : (round.terminal.states (withStop inputs)).take 1 = [round.terminal] := by
    cases hinputs : withStop inputs <;> simp [states_nil, states_cons]
  constructor <;> simp [Run.ended, h, hstates]

/-- One more input is asked for, and then the run ends. -/
theorem isOrderly_after_ended (hinputs : withStop inputs = input :: later)
    (h : round.terminal.IsOpen) (hnext : next.terminal = (round.terminal.handle input).terminal)
    {error : Option TerminalError}
    (herror : error = none ↔ ¬ BreaksOff display round.terminal input.command)
    (hlast : if error = none then next.terminal.IsClosed else next.terminal.IsOpen)
    (logs : List Log.Record) :
    ((Run.ended next [] error (inputs.length - 1)).after round logs).IsOrderly display
      round.terminal inputs := by
  have hstates : (round.terminal.states (input :: later)).take 2 =
      [round.terminal, next.terminal] := by
    rw [states_cons, ← hnext]
    cases later <;> simp [states_nil, states_cons]
  constructor
  case last => exact hlast
  all_goals simp [Run.ended, Run.after, h, hstates, hinputs, herror]

/-- One more input is asked for before a run. -/
theorem Run.IsOrderly.after {run : Run α} (h : round.terminal.IsOpen)
    (hbreaks : ¬ BreaksOff display round.terminal input.command)
    (hrun : run.IsOrderly display (round.terminal.handle input).terminal inputs)
    (logs : List Log.Record) :
    (run.after round logs).IsOrderly display round.terminal (input :: inputs) := by
  have hinputs : withStop (input :: inputs) = input :: withStop inputs := rfl
  constructor
  case states =>
    rw [hinputs, states_cons]
    simpa [Run.after] using hrun.states
  case length_le => simpa [Run.after, hinputs] using hrun.length_le
  case unread => simpa [Run.after] using hrun.unread
  case isOpen => exact List.forall_mem_cons.mpr ⟨h, hrun.isOpen⟩
  case error =>
    rw [hinputs]
    refine hrun.error.trans ?_
    rw [Run.after, List.zip_cons_cons, List.forall_mem_cons]
    exact (and_iff_right hbreaks).symm
  case last => exact hrun.last

/-! ### The loop -/

theorem run_of_closed (h : round.terminal.surface.closed = true) (inputs : List PromptInput) :
    run display round inputs = Run.ended round [] none inputs.length := by
  cases inputs <;> simp [run, h]

/-- **One turn of the loop**: the next input is answered, and the run goes on if it is a line and
what it has brought about can be shown. -/
theorem run_cases (display : ScreenEvent → Except MarkupError α)
    (h : round.terminal.surface.closed = false) (inputs : List PromptInput) :
    ∃ input later step shown, withStop inputs = input :: later ∧
      step = round.terminal.handle input ∧ shown = step.shown display ∧
        ((shown.2 = none ∧ ∃ rest, inputs = input :: rest ∧
            run display round inputs = (run display shown.1 rest).after round step.logs) ∨
          ((shown.2 = none → input = .stop) ∧
            run display round inputs =
              (Run.ended shown.1 [] shown.2 (inputs.length - 1)).after round step.logs)) := by
  cases inputs with
  | nil => exact ⟨.stop, [], _, _, rfl, rfl, rfl, .inr ⟨fun _ => rfl, by simp [run, h]⟩⟩
  | cons input rest =>
    refine ⟨input, withStop rest, _, _, rfl, rfl, rfl, ?_⟩
    cases hshown : ((round.terminal.handle input).shown display).2 with
    | some error => exact .inr ⟨(nomatch ·), by simp [run, h, hshown]⟩
    | none =>
      cases input with
      | line text => exact .inl ⟨rfl, rest, rfl, by simp [run, h, hshown]⟩
      | stop => exact .inr ⟨fun _ => rfl, by simp [run, h, hshown]⟩

/-- **What every turn preserves** holds whenever an input is asked for, of all that has been shown
until then. -/
theorem rounds_invariant {R : List α → Terminal → Prop} (past : List α)
    (hstep : ∀ shown t input, R shown t → ((handle t input).shown display).2 = none →
      (handle t input).terminal.surface.closed = false →
        R (shown ++ ((handle t input).shown display).1.shown) (handle t input).terminal)
    (hround : round.terminal.surface.closed = false → R (past ++ round.shown) round.terminal)
    {before after : List (Round α)} {asked : Round α}
    (hrounds : (run display round inputs).rounds = before ++ asked :: after) :
    R (past ++ (before ++ [asked]).flatMap Round.shown) asked.terminal := by
  -- the inputs get fewer with each turn, while what is past grows by what the turn has shown
  induction hlength : inputs.length using Nat.strong_induction_on
    generalizing inputs round past before with
  | _ n ih =>
    cases hclosed : round.terminal.surface.closed with
    | true =>
      rw [run_of_closed hclosed] at hrounds
      simp [Run.ended] at hrounds
    | false =>
      obtain ⟨input, later, step, shown, -, rfl, rfl, hcases⟩ :=
        run_cases display hclosed inputs
      cases before with
      | nil =>
        -- the first moment is the one that the run starts from
        obtain rfl : round = asked := by
          rcases hcases with ⟨-, rest, -, hrun⟩ | ⟨-, hrun⟩ <;> rw [hrun] at hrounds <;>
            exact (List.cons.inj hrounds).1
        simpa using hround hclosed
      | cons first before =>
        rcases hcases with ⟨hnone, rest, rfl, hrun⟩ | ⟨-, hrun⟩
        · rw [hrun] at hrounds
          obtain ⟨rfl, hrest⟩ := List.cons.inj hrounds
          have hnext : R ((past ++ round.shown) ++ (before ++ [asked]).flatMap Round.shown)
              asked.terminal :=
            ih rest.length (by simp [← hlength]) (past ++ round.shown)
              (fun hopen => hstep _ _ input (hround hclosed) hnone hopen) hrest rfl
          simpa using hnext
        · rw [hrun] at hrounds
          simp [Run.after, Run.ended] at hrounds

/-! ### The end of every run -/

/-- A run is orderly if the rest of it is. -/
theorem isOrderly_run_of_rest (hdisplay : IsReliable display)
    (h : round.terminal.IsPrompting ∨ round.terminal.IsClosed)
    (hrest : ∀ input rest, inputs = input :: rest → ∀ next : Round α,
      next.terminal.IsPrompting ∨ next.terminal.IsClosed →
        (run display next rest).IsOrderly display next.terminal rest) :
    (run display round inputs).IsOrderly display round.terminal inputs := by
  rcases h with h | h
  · obtain ⟨input, later, step, shown, hinputs, rfl, rfl, hcases⟩ :=
      run_cases display h.closed inputs
    have houtcome := outcome_handle h hdisplay input
    have hbreaks := houtcome.shown_snd_eq_none_iff hdisplay
    rcases hcases with ⟨hnone, rest, rfl, hrun⟩ | ⟨hstop, hrun⟩
    · -- the run goes on, from a terminal that is at the prompt again or closed
      have hnext := houtcome.isPrompting_or_isClosed h (hbreaks.mp hnone)
      rw [hrun]
      exact (hrest input rest rfl (((round.terminal.handle input).shown display).1) hnext).after
        h.isOpen (hbreaks.mp hnone) _
    · rw [hrun]
      refine isOrderly_after_ended hinputs h.isOpen rfl hbreaks ?_ _
      split
      · -- without an error only the wish to stop ends a run, and it closes the terminal
        rename_i hnone
        obtain rfl := hstop hnone
        have hstep : round.terminal.handle .stop = _ := dismiss_of_phase_ne h.phase_ne
        rw [hstep]
        exact isClosed_ended _
      · rename_i herror
        exact houtcome.isOpen h (not_not.mp (mt hbreaks.mpr herror))
  · rw [run_of_closed h.surface]
    exact isOrderly_ended h

theorem isOrderly_run_of_isPrompting (hdisplay : IsReliable display)
    (h : round.terminal.IsPrompting ∨ round.terminal.IsClosed) (inputs : List PromptInput) :
    (run display round inputs).IsOrderly display round.terminal inputs := by
  induction inputs generalizing round with
  | nil => exact isOrderly_run_of_rest hdisplay h fun _ _ hnil => nomatch hnil
  | cons input rest ih =>
    refine isOrderly_run_of_rest hdisplay h fun _ _ hcons next hnext => ?_
    obtain ⟨-, rfl⟩ := List.cons.inj hcons
    exact ih hnext

/-- What a start does can be shown. -/
theorem shown_started {settings : SessionSettings} (hs : settings.Valid) (rendering : Rendering)
    (outcome : LoadOutcome) (hdisplay : IsReliable display) :
    ((started settings rendering outcome).shown display).2 = none := by
  obtain ⟨-, herror, hevents⟩ := isPrompting_started hs rendering outcome
  rw [Step.shown_snd_eq_none_iff, herror, hevents]
  exact ⟨rfl, fun event hevent => hdisplay.other event fun s hs => by simp [hs] at hevent⟩

/-- **Every run of the prompt is orderly**, when a session has been started with valid settings,
whatever its load has brought: the inputs are answered one after another and none is asked for when
the session is over, and at the end the session is over and the terminal closed, unless the prompt
has broken off. -/
theorem isOrderly_run {settings : SessionSettings} (hs : settings.Valid) (rendering : Rendering)
    (outcome : LoadOutcome) (hdisplay : IsReliable display) (inputs : List PromptInput) :
    let start := (started settings rendering outcome).shown display
    start.2 = none ∧ (run display start.1 inputs).IsOrderly display start.1.terminal inputs :=
  ⟨shown_started hs rendering outcome hdisplay,
    isOrderly_run_of_isPrompting hdisplay
      (.inl (isPrompting_started hs rendering outcome).1) inputs⟩

/-- A run that lists entries, rejects a number and opens a row before its last line. -/
theorem isOrderly_run_of_selection :
    let start := (started .standard .console (.texts
      ["/** a */\nnative A takes nothing returns nothing"])).shown CommandLine.draw
    let inputs : List PromptInput := [.line " ", .line ":7", .line ":1", .line "B"]
    let r := run CommandLine.draw start.1 inputs
    SessionSettings.standard.Valid ∧ IsReliable CommandLine.draw ∧ r.rounds.length = 3 ∧
      r.unread = 1 ∧ r.last.terminal.surface.closed = true ∧ start.2 = none ∧
        r.IsOrderly CommandLine.draw start.1.terminal inputs :=
  ⟨SessionSettings.valid_standard, isReliable_draw, by decide +kernel, by decide +kernel,
    by decide +kernel, isOrderly_run SessionSettings.valid_standard .console _ isReliable_draw _⟩

/-- **The prompt breaks off** at a superscript after the colon: it counts as a digit, but it is no
number, and the session is left ready and the terminal open. -/
theorem exists_run_broken_off :
    let start := (started .standard .console (.texts
      ["/** a */\nnative A takes nothing returns nothing"])).shown CommandLine.draw
    let r := run CommandLine.draw start.1 [.line ":²"]
    r.error.isSome ∧ r.last.terminal.session.phase = .ready ∧
      r.last.terminal.surface.closed = false := by
  decide +kernel

end Terminal

end NativeFinder
