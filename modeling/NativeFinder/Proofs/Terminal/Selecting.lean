import NativeFinder.Proofs.Detail.Panel
import NativeFinder.Proofs.Session.Selection
import NativeFinder.Terminal.Prompt

/-!
# Selecting a row on a terminal

A row that a session displays, other than a placeholder, is the row of an entry in view, and
selecting it shows the details of an entry of its name. On a terminal they are shown in a panel. If
the panel can be made, it is shown and the session is over; otherwise the error escapes and the
session stays where it is, with its choice made and the terminal open (`select_shows_panel_iff`).

A panel can be made if the texts of the entry are clear and no tag runs over the end of a line. The
doc comment of a declaration may well hold an annotation behind a backslash, or a bracket that only
the next line closes, and then there is no panel (`exists_select_without_panel`).
-/

namespace NativeFinder

namespace Terminal

variable {t : Terminal} {row : Row} {e : Entry}

/-- What a terminal does when a session is started on it. -/
def started (settings : SessionSettings) (rendering : Rendering) (outcome : LoadOutcome) : Step :=
  let session := Session.fresh settings rendering
  ofSessionStep { session, surface := .fresh } (session.start outcome)

/-- The terminal when its session has been dismissed. -/
def ended (t : Terminal) : Terminal :=
  { session := t.session.released, surface := { t.surface with busy := false, closed := true } }

/-- What is shown when the surface is closed. -/
def closingEvents (t : Terminal) : List ScreenEvent := if t.surface.busy then [.busyHidden] else []

/-- **A dismissal** ends the session and closes the terminal. -/
theorem dismiss_of_phase_ne (h : t.session.phase ≠ .closed) :
    t.dismiss = { terminal := t.ended, events := t.closingEvents } := by
  rw [dismiss, Session.dismiss_of_phase_ne h]
  cases hbusy : t.surface.busy <;>
    simp [ofSessionStep, TerminalSurface.answerAll, TerminalSurface.answer,
      TerminalSurface.hideBusy, ended, closingEvents, hbusy]

/-- **An entry with a panel** is shown, and the session is over. -/
theorem select_of_panel_eq_ok {panel : Panel} (hrow : t.session.selectable? row = some e)
    (hpanel : (t.session.rendering.detail e).panel = .ok panel) :
    t.select row = { terminal := t.ended, events := .panel panel :: t.closingEvents } := by
  have hchoose : t.ofSessionStep (t.session.choose e) =
      { terminal := { t with session := { t.session with phase := .selected } }
        events := [.panel panel] } := by
    simp [ofSessionStep, Session.choose, TerminalSurface.answerAll, TerminalSurface.answer, hpanel,
      Except.map]
  simp only [select, hrow, hchoose, Step.andThen, List.nil_append]
  rw [dismiss_of_phase_ne (by simp)]
  rfl

/-- **An entry without a panel** leaves the session where it is. -/
theorem select_of_panel_eq_error {error : MarkupError} (hrow : t.session.selectable? row = some e)
    (hpanel : (t.session.rendering.detail e).panel = .error error) :
    t.select row =
      { terminal := { t with session := { t.session with phase := .selected } }
        error := some (.markup error) } := by
  have hchoose : t.ofSessionStep (t.session.choose e) =
      { terminal := { t with session := { t.session with phase := .selected } }
        error := some (.markup error) } := by
    simp [ofSessionStep, Session.choose, TerminalSurface.answerAll, TerminalSurface.answer, hpanel,
      Except.map]
  simp only [select, hrow, hchoose, Step.andThen]

/-- **When selecting a row shows its details.** An entry has a panel exactly if its signature and
the lines of its description are clear, provided that no line but the last leaves a bracket open. A
row that is displayed for an entry selects an entry of its name; if that has a panel, it is shown
and the session and the terminal are closed, and otherwise the error escapes and neither is. -/
theorem select_shows_panel_iff (e : Entry) (t : Terminal) :
    ((∀ line ∈ (Rendering.shownLines e.description).dropLast, Markup.leavesOpen line = false) →
      ((∃ panel, (Rendering.console.detail e).panel = .ok panel) ↔
        Highlight.isClear false (Highlight.signature e.signature) = true ∧
          ∀ line ∈ Rendering.shownLines e.description,
            Highlight.isClear false (Highlight.docTags line) = true)) ∧
    (t.session.Coherent → t.session.phase = .ready → t.session.rendering = .console →
      ∀ row ∈ t.session.rows, row.placeholder = false →
        ∃ e ∈ t.session.view, e.name = row.label ∧
          (∀ panel, (Rendering.console.detail e).panel = .ok panel →
            (t.select row).error = none ∧ .panel panel ∈ (t.select row).events ∧
              (t.select row).terminal.session.phase = .closed ∧
                (t.select row).terminal.surface.closed = true) ∧
          ∀ error, (Rendering.console.detail e).panel = .error error →
            t.select row =
              { terminal := { t with session := { t.session with phase := .selected } }
                error := some (.markup error) }) := by
  refine ⟨e.exists_panel_iff, fun hcoherent hp hrendering row hrow hnot => ?_⟩
  obtain ⟨e, hview, hname, hselect⟩ := hcoherent.exists_selectable? hp hrow hnot
  rw [← hrendering]
  refine ⟨e, hview, hname, fun panel hpanel => ?_, fun error hpanel => ?_⟩
  · rw [select_of_panel_eq_ok hselect hpanel]
    exact ⟨rfl, List.mem_cons_self .., rfl, rfl⟩
  · exact select_of_panel_eq_error hselect hpanel

/-- A declaration with an annotation and a parameter: it has a panel, and its row opens it. -/
theorem select_shows_panel_of_param :
    let t := (started .standard .console (.texts
      ["/** @param x */\nnative A takes integer x returns nothing"])).terminal
    let row : Row := ⟨"A", "A(integer x): nothing", [], false⟩
    t.session.Coherent ∧ t.session.phase = .ready ∧ t.session.rendering = .console ∧
      row ∈ t.session.rows ∧
        ∃ e ∈ t.session.view,
          (∀ line ∈ (Rendering.shownLines e.description).dropLast, Markup.leavesOpen line = false) ∧
            (∃ panel, (Rendering.console.detail e).panel = .ok panel) ∧
              (t.select row).error = none ∧ (t.select row).terminal.surface.closed = true := by
  intro t row
  have hcoherent : t.session.Coherent :=
    (Session.follows_run SessionSettings.valid_standard .console
      (show [Session.Event.begin, .settle (.texts
        ["/** @param x */\nnative A takes integer x returns nothing"])].count .begin ≤ 1 by
          decide)).coherent
  have hp : t.session.phase = .ready := by decide +kernel
  have hrendering : t.session.rendering = .console := by decide +kernel
  have hrow : row ∈ t.session.rows := by decide +kernel
  obtain ⟨e, hview, -, hshown, -⟩ :=
    (select_shows_panel_iff default t).2 hcoherent hp hrendering row hrow rfl
  have hclear : ∀ e ∈ t.session.view,
      (∀ line ∈ (Rendering.shownLines e.description).dropLast, Markup.leavesOpen line = false) ∧
        Highlight.isClear false (Highlight.signature e.signature) = true ∧
          ∀ line ∈ Rendering.shownLines e.description,
            Highlight.isClear false (Highlight.docTags line) = true := by decide +kernel
  obtain ⟨hopen, hclear⟩ := hclear e hview
  obtain ⟨panel, hok⟩ := ((select_shows_panel_iff e t).1 hopen).mpr hclear
  obtain ⟨herror, -, -, hclosed⟩ := hshown panel hok
  exact ⟨hcoherent, hp, hrendering, hrow, e, hview, hopen, ⟨panel, hok⟩, herror, hclosed⟩

/-- **Documentation can break the details** in two ways. With a backslash before its annotation, a
declaration has no panel, and selecting its row neither shows anything nor ends the session. The
same comes of a tag that runs over the end of a line: each line is clear by itself, but the bracket
that one leaves open is closed by the next. -/
theorem exists_select_without_panel :
    (let t := (started .standard .console (.texts
      ["/** \\@param x */\nnative A takes nothing returns nothing"])).terminal
    let row : Row := ⟨"A", "A(nothing): nothing", "\\@param x", false⟩
    row ∈ t.session.rows ∧ (t.select row).error.isSome ∧ (t.select row).events = [] ∧
      (t.select row).terminal.session.phase = .selected ∧
        (t.select row).terminal.surface.closed = false) ∧
    let t := (started .standard .console (.texts
      ["/** [/a\n] */\nnative A takes nothing returns nothing"])).terminal
    let row : Row := ⟨"A", "A(nothing): nothing", "[/a", false⟩
    (∀ e ∈ t.session.view, ∀ line ∈ Rendering.shownLines e.description,
      Highlight.isClear false (Highlight.docTags line) = true) ∧
    row ∈ t.session.rows ∧ (t.select row).error.isSome ∧ (t.select row).events = [] ∧
      (t.select row).terminal.session.phase = .selected ∧
        (t.select row).terminal.surface.closed = false := by
  decide +kernel

end Terminal

end NativeFinder
