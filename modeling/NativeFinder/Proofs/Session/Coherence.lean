import NativeFinder.Proofs.Search.Ranking
import NativeFinder.Proofs.Session.Change
import Mathlib.Data.List.TakeWhile

/-!
# The parts of a session agree

A session consists of its phase, its entries and their index, and what it shows, and every event
updates some of these. `Coherent` says how they agree: there is an index exactly in the ready phase,
over the entries, of which there is at least one; the rows are those of the view, or the one that
says that nothing matches; the view is selected from the entries within the limit; and in any other
phase nothing is held. `coherent_run` says that this is so in every history in which the session
begins at most once, that the entries are those of the texts that the load has brought, and that
they never change.

The invariant is `Follows`, which relates a session to the events so far. While a load is pending,
there is no outcome yet and nothing is held, so that no outcome replaces another one.
-/

namespace NativeFinder

/-! ### Selections -/

/-- A **selection** from some entries: each is one of them, and none is taken from the same position
as another. -/
def IsSelection (entries view : List Entry) : Prop :=
  ∃ positions : List Nat, positions.Nodup ∧
    positions.map (fun position => entries[position]?) = view.map some

variable {entries view view' : List Entry}

theorem isSelection_self (entries : List Entry) : IsSelection entries entries := by
  refine ⟨List.range entries.length, List.nodup_range, ?_⟩
  apply List.ext_getElem <;> simp

theorem IsSelection.of_isPrefix (h : IsSelection entries view) (hview : view' <+: view) :
    IsSelection entries view' := by
  obtain ⟨positions, hnodup, hmap⟩ := h
  refine ⟨positions.take view'.length, hnodup.sublist (List.take_sublist _ _), ?_⟩
  rw [List.map_take, hmap, ← List.map_take, List.prefix_iff_eq_take.mp hview]
  simp

/-- The entries of a ranking are a selection. -/
theorem Index.isSelection_ranking (index : Index) (query : Text) :
    IsSelection index.entries ((index.ranking query).map Match.entry) := by
  cases hshort : index.isTooShort query.folded with
  | true =>
    rw [ranking_of_isTooShort hshort]
    exact ⟨[], List.nodup_nil, rfl⟩
  | false =>
    have hranking := isRanking_ranking hshort
    refine ⟨_, hranking.nodup, ?_⟩
    rw [List.map_map, List.map_map]
    exact List.map_congr_left fun m hm => (hranking.shows m hm).1

namespace Session

variable {s s' : Session} {es : List Event} {e : Event}

/-! ### Coherent sessions -/

/-- What a ready session shows of its entries. -/
structure IsShowing (s : Session) : Prop where
  entries_ne_nil : s.entries ≠ []
  indexed : ∃ index, s.index = some index ∧ index.entries = s.entries
  rows : s.rows = [Row.noMatches] ∧ s.view = [] ∨ s.rows = s.view.map Row.ofEntry
  view : IsSelection s.entries s.view
  length_le : ∀ n : Nat, Limit.ofValue? s.settings.displayLimit = some (some (n : Int)) →
    s.view.length ≤ n

/-- A session whose parts agree with each other. -/
structure Coherent (s : Session) : Prop where
  phase : s.phase ≠ .searching ∧ s.phase ≠ .selected
  index : s.index.isSome ↔ s.phase = .ready
  ready : s.phase = .ready → s.IsShowing
  empty : s.phase ≠ .ready → s.entries = [] ∧ s.view = []
  closed : s.phase = .closed → s.rows = [] ∧ s.cancelled = true

theorem coherent_fresh (settings : SessionSettings) (rendering : Rendering) :
    (fresh settings rendering).Coherent := by
  constructor <;> simp [fresh]

/-- A supplied session shows all of its entries within the limit. -/
theorem isShowing_supplied {limit : Limit} {index : Index} {entries : List Entry}
    (hlimit : Limit.ofValue? s.settings.displayLimit = some limit) (hne : entries ≠ [])
    (hentries : index.entries = entries) : (s.supplied limit index entries).IsShowing where
  entries_ne_nil := hne
  indexed := ⟨index, rfl, hentries⟩
  rows := .inr rfl
  view := (isSelection_self entries).of_isPrefix (limit.apply_prefix entries)
  length_le n hn := by
    obtain rfl : limit = some (n : Int) := Option.some.inj (hlimit.symm.trans hn)
    exact Limit.length_apply_le n entries

/-- The answers to a query are a selection from the entries. -/
theorem isSelection_answers {index : Index} (hentries : index.entries = s.entries) (text : Text) :
    IsSelection s.entries (s.answers index text) := by
  rw [answers]
  split
  · exact isSelection_self s.entries
  · exact hentries ▸ index.isSelection_ranking text.trim

/-- A session that has answered a query shows its answers, or that there are none. -/
theorem IsShowing.answered (h : s.IsShowing) {limit : Limit} {index : Index}
    (hlimit : Limit.ofValue? s.settings.displayLimit = some limit) (hi : s.index = some index)
    (text : Text) : (s.answered limit index text).IsShowing := by
  have hentries : index.entries = s.entries := by
    obtain ⟨index', hi', hentries⟩ := h.indexed
    exact Option.some.inj (hi.symm.trans hi') ▸ hentries
  constructor
  case entries_ne_nil => exact h.entries_ne_nil
  case indexed => exact ⟨index, hi, hentries⟩
  case rows =>
    simp only [Session.answered]
    split
    -- a query that finds nothing leaves nothing in view either
    · rename_i hnone
      obtain ⟨hnil, -⟩ : s.answers index text = [] ∧ text.trim ≠ [] := by simpa using hnone
      exact .inl ⟨rfl, by rw [hnil, limit.apply_nil]⟩
    · exact .inr rfl
  case view => exact (isSelection_answers hentries text).of_isPrefix (limit.apply_prefix _)
  case length_le =>
    intro n hn
    obtain rfl : limit = some (n : Int) := Option.some.inj (hlimit.symm.trans hn)
    exact Limit.length_apply_le n _

theorem IsShowing.coherent (h : s.IsShowing) (hp : s.phase = .ready) : s.Coherent where
  phase := by simp [hp]
  index := by
    obtain ⟨index, hi, -⟩ := h.indexed
    simp [hp, hi]
  ready _ := h
  empty hne := absurd hp hne
  closed hc := by simp [hp] at hc

/-- A session that holds nothing before its load has brought something, or when it has brought
nothing. -/
theorem coherent_of_empty (hp : s.phase = .loading ∨ s.phase = .inert) (hi : s.index = none)
    (hempty : s.entries = [] ∧ s.view = []) : s.Coherent := by
  rcases hp with hp | hp <;> constructor <;> simp [hp, hi, hempty]

theorem coherent_released (s : Session) : s.released.Coherent := by
  constructor <;> simp [released]

/-- **One change** keeps a session coherent, if it neither begins nor waits for a load when it is
ready. -/
theorem Change.coherent (h : Change s e s') (hs : s.Coherent)
    (hbegin : e = .begin → s.phase ≠ .ready) (hpending : s.pending = true → s.phase ≠ .ready) :
    s'.Coherent := by
  have hnone (hp : s.phase ≠ .ready) : s.index = none := by
    simpa [hp] using hs.index
  cases h with
  | marked _ _ hc hl =>
    refine ⟨hs.phase, hs.index, fun hp => ?_, hs.empty, fun hp => (hs.closed hp).imp_right hc⟩
    -- a mark changes nothing that is shown
    have hshowing := hs.ready hp
    exact ⟨hshowing.entries_ne_nil, hshowing.indexed, hshowing.rows, hshowing.view,
      hshowing.length_le⟩
  | begun he hc => exact coherent_of_empty (.inl rfl) (hnone (hbegin he)) (hs.empty (hbegin he))
  | reported he hl hc row =>
    exact coherent_of_empty (.inr rfl) (hnone (hpending hl)) (hs.empty (hpending hl))
  | supplied he hl hc hne hlimit hbuild =>
    exact (isShowing_supplied hlimit hne (Index.build_eq_ok_iff.mp hbuild).1).coherent rfl
  | answered he hp hlimit hi => exact ((hs.ready hp).answered hlimit hi _).coherent hp
  | released hp => exact coherent_released s

/-! ### The outcome of the load -/

/-- How the load of a history has settled: with the first outcome after its beginning. -/
def loadOutcome? (es : List Event) : Option LoadOutcome :=
  (es.dropWhile (· ≠ .begin)).findSome? Event.outcome?

theorem dropWhile_ne_begin (h : .begin ∉ es) : es.dropWhile (· ≠ .begin) = [] := by
  rw [List.dropWhile_eq_nil_iff]
  exact fun e he => by simpa using ne_of_mem_of_not_mem he h

/-- Before the beginning there is no outcome. -/
theorem loadOutcome?_of_not_mem (h : .begin ∉ es) : loadOutcome? es = none := by
  rw [loadOutcome?, dropWhile_ne_begin h, List.findSome?_nil]

theorem loadOutcome?_concat_begin (h : .begin ∉ es) : loadOutcome? (es ++ [.begin]) = none := by
  rw [loadOutcome?, List.dropWhile_append, dropWhile_ne_begin h]
  rfl

/-- Once there is an outcome it stays. -/
theorem loadOutcome?_append (h : .begin ∈ es) (later : List Event) :
    loadOutcome? (es ++ later) = (loadOutcome? es).or (later.findSome? Event.outcome?) := by
  have hdrop : (es.dropWhile (· ≠ .begin)).isEmpty = false := by
    rw [List.isEmpty_eq_false_iff, ne_eq, List.dropWhile_eq_nil_iff]
    exact fun hall => by simpa using hall _ h
  rw [loadOutcome?, List.dropWhile_append, hdrop]
  simp [loadOutcome?, List.findSome?_append]

/-! ### Histories -/

/-- A session that agrees with itself and with the events so far. -/
structure Follows (past : List Event) (s : Session) : Prop where
  coherent : s.Coherent
  pending : s.pending = true → s.phase ≠ .ready ∧ .begin ∈ past ∧ loadOutcome? past = none
  ready : s.phase = .ready → ∃ outcome, loadOutcome? past = some outcome ∧ s.IsSupplied outcome

theorem follows_fresh (settings : SessionSettings) (rendering : Rendering) :
    Follows [] (fresh settings rendering) where
  coherent := coherent_fresh settings rendering
  pending h := by cases h
  ready h := by cases h

variable {past : List Event}

/-- A session is ready only after it has begun. -/
theorem Follows.begin_mem (h : Follows past s) (hp : s.phase = .ready) : .begin ∈ past := by
  obtain ⟨outcome, houtcome, -⟩ := h.ready hp
  by_contra hnot
  rw [loadOutcome?_of_not_mem hnot] at houtcome
  cases houtcome

/-- **One change** other than a second beginning. -/
theorem Follows.change (h : Follows past s) (hchange : Change s e s')
    (hbegin : e = .begin → .begin ∉ past) : Follows (past ++ [e]) s' := by
  constructor
  case coherent =>
    exact hchange.coherent h.coherent (fun he hp => hbegin he (h.begin_mem hp))
      fun hl => (h.pending hl).1
  case pending =>
    intro hl
    -- the load has just begun, or it was pending before and the event does not settle it
    rcases hchange.pending_cases hl with ⟨rfl, hp⟩ | ⟨hl, he, hp⟩
    · refine ⟨by simp [hp], by simp, ?_⟩
      rw [loadOutcome?_concat_begin (hbegin rfl)]
    · obtain ⟨hready, hmem, hnone⟩ := h.pending hl
      refine ⟨mt hp hready, List.mem_append_left _ hmem, ?_⟩
      rw [loadOutcome?_append hmem, hnone, Option.none_or]
      simp [he]
  case ready =>
    intro hp
    -- an outcome that was there stays; one that comes now is the first, since the load was pending
    rcases hchange.ready_cases hp with ⟨hready, hkeep⟩ | ⟨outcome, rfl, hl, hsupplied⟩
    · obtain ⟨outcome, houtcome, hsupplied⟩ := h.ready hready
      refine ⟨outcome, ?_, hkeep outcome hsupplied⟩
      rw [loadOutcome?_append (h.begin_mem hready), houtcome, Option.some_or]
    · obtain ⟨-, hmem, hnone⟩ := h.pending hl
      refine ⟨outcome, ?_, hsupplied⟩
      rw [loadOutcome?_append hmem, hnone, Option.none_or]
      rfl

/-- **Every history** in which the session begins at most once. -/
theorem follows_run {settings : SessionSettings} (hs : settings.Valid) (rendering : Rendering)
    (hes : es.count .begin ≤ 1) : Follows es ((fresh settings rendering).run es).state := by
  refine history_invariant hs Follows (follows_fresh settings rendering)
    fun past e hpast s s' h hchange => h.change hchange ?_
  rintro rfl
  have hcount : (past ++ [Event.begin]).count .begin ≤ 1 :=
    Nat.le_trans (hpast.sublist.count_le _) hes
  rw [List.count_append, List.count_singleton_self] at hcount
  exact List.count_eq_zero.mp (by omega)

theorem Follows.exists_texts (h : Follows es s) (hp : s.phase = .ready) :
    ∃ texts, loadOutcome? es = some (.texts texts) ∧ s.entries = Entry.ofTexts texts := by
  obtain ⟨outcome, houtcome, hsupplied⟩ := h.ready hp
  obtain ⟨texts, rfl, hentries⟩ := hsupplied.exists_eq_texts
  exact ⟨texts, houtcome, hentries⟩

/-- **The parts of a session agree** in every history in which it begins at most once. When it is
ready, its entries are those of the texts that its load has brought, and they are the same as long
as it stays so. -/
theorem coherent_run {settings : SessionSettings} (hs : settings.Valid) (rendering : Rendering)
    {es : List Event} (hes : es.count .begin ≤ 1) :
    let s := ((fresh settings rendering).run es).state
    s.Coherent ∧
      (s.phase = .ready →
        (∃ texts, loadOutcome? es = some (.texts texts) ∧ s.entries = Entry.ofTexts texts) ∧
        ∀ later, (es ++ later).count .begin ≤ 1 → (s.run later).state.phase = .ready →
          (s.run later).state.entries = s.entries) := by
  intro s
  have h : Follows es s := follows_run hs rendering hes
  refine ⟨h.coherent, fun hp => ⟨h.exists_texts hp, fun later hlater hready => ?_⟩⟩
  have h' : Follows (es ++ later) (s.run later).state :=
    state_run_append es later ▸ follows_run hs rendering hlater
  -- the outcome at the end is the one from before, so the texts are the same
  obtain ⟨texts, houtcome, hentries⟩ := h.exists_texts hp
  obtain ⟨texts', houtcome', hentries'⟩ := h'.exists_texts hready
  rw [loadOutcome?_append (h.begin_mem hp), houtcome, Option.some_or] at houtcome'
  obtain rfl : texts = texts' := by simpa using houtcome'
  rw [hentries, hentries']

/-- A session that shows none of its entries, and met with an outcome before it began. -/
theorem coherent_run_of_limit :
    let settings := { SessionSettings.standard with displayLimit := .int 0 }
    let es : List Event := [.settle (.broken "early"), .begin,
      .settle (.texts ["/** a */\nnative A takes nothing returns nothing"])]
    let s := ((fresh settings .console).run es).state
    settings.Valid ∧ es.count .begin ≤ 1 ∧ s.phase = .ready ∧ s.Coherent ∧
      (∃ texts, loadOutcome? es = some (.texts texts) ∧ s.entries = Entry.ofTexts texts) ∧
        (s.run [.changeQuery "b"]).state.entries = s.entries := by
  intro settings es s
  have hs : settings.Valid := { SessionSettings.valid_standard with displayLimit := ⟨_, rfl⟩ }
  have hes : es.count .begin ≤ 1 := by decide
  have hp : s.phase = .ready := by decide +kernel
  obtain ⟨hcoherent, hready⟩ := coherent_run hs .console hes
  exact ⟨hs, hes, hp, hcoherent, (hready hp).1,
    (hready hp).2 [.changeQuery "b"] (by decide) (by decide +kernel)⟩

end Session

end NativeFinder
