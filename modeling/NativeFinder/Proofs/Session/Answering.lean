import NativeFinder.Proofs.Session.Change

/-!
# What a session shows for a query

A session that is ready answers one query after the other, and each answer seems to build on what
was shown before. `run_queries_eq_fresh` says that it does not: after any queries the session shows
what a fresh session with the same texts shows for the last one alone. This is all entries if the
query is blank, and the ranking over all entries if it is not, cut by the limit only at the end; and
the row that says that nothing matches stands exactly for a ranking that is empty.

Both sessions come down to `answered`, which reads only the entries, the index and the limit.
-/

namespace NativeFinder

namespace Session

variable {s t : Session} {limit : Limit} {index : Index}

/-! ### Answers -/

theorem answers_eq (s : Session) (index : Index) (text : Text) :
    s.answers index text =
      if text.trim = [] then s.entries else (index.search text.trim none).map Match.entry := by
  simp only [answers, List.isEmpty_iff]
  rfl

/-- The row for no matches is not the row of an entry. -/
theorem map_ofEntry_ne (entries : List Entry) : entries.map Row.ofEntry ≠ [Row.noMatches] := by
  intro h
  have hmem : Row.noMatches ∈ entries.map Row.ofEntry := by simp [h]
  obtain ⟨e, -, he⟩ := List.mem_map.mp hmem
  cases congrArg Row.placeholder he

/-- **The rows of an answer** are those of its view, or else the one for no matches, which stands
for an empty ranking. -/
theorem rows_answered (s : Session) (limit : Limit) (index : Index) (text : Text) :
    ((s.answered limit index text).rows = [Row.noMatches] ↔
      text.trim ≠ [] ∧ index.search text.trim none = []) ∧
    ((s.answered limit index text).rows ≠ [Row.noMatches] →
      (s.answered limit index text).rows = (s.answered limit index text).view.map Row.ofEntry) := by
  have hnone : (s.answers index text).isEmpty && !text.trim.isEmpty ↔
      text.trim ≠ [] ∧ index.search text.trim none = [] := by
    rw [answers_eq]
    by_cases htrim : text.trim = [] <;> simp [htrim]
  rw [← hnone]
  simp only [answered]
  split
  · rename_i hcond
    exact ⟨iff_of_true rfl hcond, fun hne => absurd rfl hne⟩
  · rename_i hcond
    exact ⟨iff_of_false (map_ofEntry_ne _) hcond, fun _ => rfl⟩

/-- Sessions with the same entries show the same answers. -/
theorem answered_congr (h : s.entries = t.entries) (limit : Limit) (index : Index) (text : Text) :
    (s.answered limit index text).rows = (t.answered limit index text).rows ∧
      (s.answered limit index text).view = (t.answered limit index text).view := by
  have hanswers : s.answers index text = t.answers index text := by rw [answers, answers, h]
  simp only [answered, hanswers, and_self]

/-- **A fresh session** with some texts answers from their entries. -/
theorem exists_state_run_fresh {settings : SessionSettings} {rendering : Rendering}
    {texts : List Text} (hlimit : Limit.ofValue? settings.displayLimit = some limit)
    (hbuild : Index.build (Entry.ofTexts texts) Index.defaultKeys settings.threshold
      settings.minMatchLength = .ok index)
    (hne : Entry.ofTexts texts ≠ []) (text : Text) :
    ∃ u : Session, u.entries = Entry.ofTexts texts ∧ u.phase = .ready ∧
      ((fresh settings rendering).run [.begin, .settle (.texts texts), .changeQuery text]).state =
        u.answered limit index text := by
  let begun := (fresh settings rendering).begin.session
  let u := begun.supplied limit index (LoadOutcome.texts texts).entries
  have hsupplied : (begun.settle (.texts texts)).session = u :=
    settle_eq_supplied hlimit hbuild hne rfl rfl
  refine ⟨u, rfl, rfl, ?_⟩
  rw [state_run_cons, state_run_cons, handle, handle, hsupplied]
  exact state_run_changeQuery (s := u) hlimit rfl rfl [] text

/-- **Only the last query counts.** A session that is ready, after whatever history, holds the
entries of texts that it has loaded, and an index over them. After any queries it shows the same as
a fresh session with these texts that is asked the last query alone: all entries if that query is
blank, and the entries of its ranking if it is not, cut by the limit; or the row for no matches,
exactly if the ranking is empty. Its entries and its index are as before. -/
theorem run_queries_eq_fresh {settings : SessionSettings} (hs : settings.Valid)
    (rendering : Rendering) {es : List Event}
    (hp : ((fresh settings rendering).run es).state.phase = .ready) :
    let s := ((fresh settings rendering).run es).state
    ∃ texts index limit, .settle (.texts texts) ∈ es ∧ s.entries = Entry.ofTexts texts ∧
      s.index = some index ∧
      Index.build s.entries Index.defaultKeys settings.threshold settings.minMatchLength =
        .ok index ∧
      Limit.ofValue? settings.displayLimit = some limit ∧
      ∀ queries text,
        let t := (s.run ((queries ++ [text]).map .changeQuery)).state
        let u := ((fresh settings rendering).run
          [.begin, .settle (.texts texts), .changeQuery text]).state
        (t.rows = u.rows ∧ t.view = u.view ∧ t.query = u.query ∧ t.phase = u.phase) ∧
        (t.phase = .ready ∧ t.query = text ∧ t.entries = s.entries ∧ t.index = s.index) ∧
        t.view = limit.apply (if text.trim = [] then s.entries
          else (index.search text.trim none).map Match.entry) ∧
        (t.rows = [Row.noMatches] ↔ text.trim ≠ [] ∧ index.search text.trim none = []) ∧
        (t.rows ≠ [Row.noMatches] → t.rows = t.view.map Row.ofEntry) := by
  intro s
  have hsettings : s.settings = settings := settings_run _ es
  obtain ⟨outcome, hmem, hsupplied⟩ := exists_isSupplied_of_ready hs hp
  obtain ⟨texts, rfl, hentries⟩ := hsupplied.exists_eq_texts
  obtain ⟨index, hi, hbuild⟩ := hsupplied.indexed
  obtain ⟨limit, hlimit⟩ := hs.displayLimit
  have hne : s.entries ≠ [] := hsupplied.entries_ne_nil
  have hbuild' : Index.build s.entries Index.defaultKeys settings.threshold
      settings.minMatchLength = .ok index := hsettings ▸ hbuild
  refine ⟨texts, index, limit, hmem, hentries, hi, hbuild', hlimit, fun queries text => ?_⟩
  intro t u
  have ht : t = s.answered limit index text :=
    state_run_changeQuery (hsettings.symm ▸ hlimit) hi hp queries text
  -- the fresh session answers the query when it holds the same entries
  obtain ⟨u₀, hentries₀, hp₀, hu⟩ : ∃ u₀ : Session, u₀.entries = Entry.ofTexts texts ∧
      u₀.phase = .ready ∧ u = u₀.answered limit index text :=
    exists_state_run_fresh hlimit (hentries ▸ hbuild') (hentries ▸ hne) text
  refine ⟨?_, ?_, ?_, ?_⟩
  · obtain ⟨hrows, hview⟩ := answered_congr (hentries.trans hentries₀.symm) limit index text
    rw [ht, hu]
    exact ⟨hrows, hview, rfl, hp.trans hp₀.symm⟩
  · rw [ht]
    exact ⟨hp, rfl, rfl, rfl⟩
  · rw [ht, ← answers_eq]
    rfl
  · rw [ht]
    exact rows_answered s limit index text

/-- A session that is asked too early and cancelled when it is ready shows the one entry that a
query finds, whatever has been asked before. -/
theorem run_queries_eq_fresh_of_match :
    let es : List Event := [.begin, .changeQuery "early",
      .settle (.texts ["/** a */\nnative Kill takes nothing returns nothing\n" ++
        "/** b */\nnative Move takes nothing returns nothing"]), .cancel]
    let s := ((fresh .standard .console).run es).state
    s.phase = .ready ∧ s.entries.map Entry.name = ["Kill".toList, "Move".toList] ∧
      ∀ queries : List Text,
        let t := (s.run ((queries ++ [("kill" : Text)]).map .changeQuery)).state
        t.view.map Entry.name = ["Kill".toList] ∧ t.rows = t.view.map Row.ofEntry := by
  intro es s
  have hp : s.phase = .ready := by decide +kernel
  have hfound : s.index.map (fun index =>
      (index.search (Text.trim "kill") none).map fun m => m.entry.name) = some ["Kill".toList] := by
    decide +kernel
  obtain ⟨_, index, limit, -, -, hi, -, hlimit, hqueries⟩ :=
    run_queries_eq_fresh SessionSettings.valid_standard .console hp
  obtain rfl : some 200 = limit := Option.some.inj hlimit
  refine ⟨hp, by decide +kernel, fun queries => ?_⟩
  obtain ⟨-, -, hview, hnone, hrows⟩ := hqueries queries "kill"
  rw [hi, Option.map_some, Option.some.injEq] at hfound
  obtain ⟨m, hm, hname⟩ := List.map_eq_singleton_iff.mp hfound
  refine ⟨?_, hrows fun hnotice => ?_⟩
  · rw [hview, if_neg (by decide), hm]
    exact congrArg (· :: []) hname
  · rw [(hnone.mp hnotice).2] at hm
    cases hm

end Session

end NativeFinder
