import NativeFinder.Proofs.Search.Loosening

/-!
# Literal hits

A query that stands in a field as it is, apart from folding, is a **literal hit**.
`search_of_isInfix` says that no search misses one: whatever the threshold is, the entry is among
the results, its score is one, and only entries with the same score stand before it.

The converse would be that with the threshold zero there are no other results. It fails, because the
shorter text is held against the longer one, whichever of them is the query: a field that stands in
the query has all points too (`exists_match_without_query`). `search_eq_nestedMatches` says exactly
what a search with the threshold zero finds, the entries with a field that is nested with the query;
and the field of a match holds the query exactly if it is not shorter.
-/

namespace NativeFinder

/-! ### Settings -/

/-- A least length that is a number, and not below one. -/
theorem Value.Denotes.isLeastLength {v : Value} {n : Rat} (h : v.Denotes n) (hn : 1 ≤ n) :
    v.IsLeastLength := by
  obtain ⟨x, hx, hr⟩ := h
  refine ⟨x, hx, ?_⟩
  cases x with
  | finite negative magnitude =>
    obtain rfl := Option.some.inj hr
    simpa [Binary64.ltRat] using hn
  | infinite | nan => cases hr

/-- A query of at least the least length is not too short. -/
theorem Index.isTooShort_eq_false {index : Index} {v : Value} {n : Rat} (h : v.Denotes n)
    (hleast : checkLength v = .ok index.leastLength) {needle : Text} (hlong : n ≤ needle.length) :
    index.isTooShort needle = false := by
  obtain ⟨x, hx, hr⟩ := h
  rw [Bool.eq_false_iff, ne_eq, isTooShort_iff hleast]
  rintro ⟨y, hy, hgt⟩
  obtain rfl : x = y := Option.some.inj (hx.symm.trans hy)
  cases x with
  | finite negative magnitude =>
    obtain rfl := Option.some.inj hr
    exact absurd hlong (by simpa [Binary64.gtRat] using hgt)
  | infinite | nan => cases hr

theorem Field.key_injective : Function.Injective Field.key := fun f g h =>
  Option.some.inj (by rw [← ofKey?_key f, h, ofKey?_key])

namespace Index

open Similarity

variable {index : Index} {needle query : Text} {f : Field} {e : Entry} {points : Rat}
  {ms : List Match}

/-! ### Points of an entry -/

theorem fieldPoints_le_hundred (needle : Text) (f : Field) (e : Entry) :
    fieldPoints needle f e ≤ 100 :=
  score_le_hundred needle (fieldText f e)

/-- No threshold asks for more than all points. -/
theorem cutoff_le_hundred (h₀ : 0 ≤ index.threshold) (h₁ : index.threshold ≤ 1) :
    index.cutoff ≤ 100 :=
  (points_anti h₀ h₁).trans_eq points_zero

theorem points?_le_hundred (h : index.points? needle e = some points) : points ≤ 100 := by
  obtain ⟨hmem, -⟩ := List.max?_eq_some_iff.mp h
  obtain ⟨f, -, rfl⟩ := List.mem_map.mp hmem
  exact fieldPoints_le_hundred needle f e

/-- An entry has all points if and only if one of its searched fields has. -/
theorem points?_eq_hundred_iff :
    index.points? needle e = some 100 ↔ ∃ f ∈ index.fields, fieldPoints needle f e = 100 := by
  rw [points?, List.max?_eq_some_iff]
  constructor
  · rintro ⟨hmem, -⟩
    exact List.mem_map.mp hmem
  · rintro ⟨f, hf, hpoints⟩
    refine ⟨List.mem_map.mpr ⟨f, hf, hpoints⟩, fun x hx => ?_⟩
    obtain ⟨g, -, rfl⟩ := List.mem_map.mp hx
    exact fieldPoints_le_hundred needle g e

/-! ### Literal hits -/

theorem Shows.score_eq_one {m : Match} (h : index.Shows needle m)
    (hpoints : index.points? needle m.entry = some 100) : m.score = 1 := by
  obtain ⟨-, points, hpoints', hscore, -⟩ := h
  obtain rfl : 100 = points := Option.some.inj (hpoints.symm.trans hpoints')
  rw [hscore]
  decide +kernel

/-- **An entry with all points** is in every ranking, behind none with fewer points. -/
theorem IsRanking.exists_eq_append (h : index.IsRanking needle ms) (hcutoff : index.cutoff ≤ 100)
    {position : Nat} (he : index.entries[position]? = some e)
    (hpoints : index.points? needle e = some 100) :
    ∃ before m after, ms = before ++ m :: after ∧ m.position = position ∧ m.entry = e ∧
      m.score = 1 ∧ ∀ m' ∈ before, m'.score = 1 := by
  obtain ⟨m, hm, rfl⟩ := List.mem_map.mp
    ((h.mem_positions_iff position).mpr ⟨e, 100, he, hpoints, hcutoff⟩)
  obtain rfl : m.entry = e := Option.some.inj ((h.shows m hm).1.symm.trans he)
  obtain ⟨before, after, rfl⟩ := List.append_of_mem hm
  refine ⟨before, m, after, rfl, rfl, rfl, (h.shows m hm).score_eq_one hpoints, fun m' hm' => ?_⟩
  -- what stands before it has no fewer points, and there are no more
  have hshows : index.Shows needle m' := h.shows m' (List.mem_append_left _ hm')
  obtain ⟨x, hx⟩ : ∃ x, index.points? needle m'.entry = some x := hshows.2.imp fun _ hx => hx.1
  have hbefore : 100 < x ∨ x = 100 ∧ m'.position < m.position :=
    (List.pairwise_append.mp h.ordered).2.2 m' hm' m List.mem_cons_self x 100 hx hpoints
  have hle : x ≤ 100 := points?_le_hundred hx
  obtain rfl : x = 100 := by
    rcases hbefore with hlt | ⟨heq, -⟩
    · exact absurd hle hlt.not_ge
    · exact heq
  exact hshows.score_eq_one hx

/-- **No literal hit is missed.** A search can be set up with a threshold from `0` to `1`, a least
length `n` and known keys. If a query has at least `n` characters when it is folded, and stands in
the folded text of a searched field of an entry, then that entry is among its results with the score
one, and what stands before it has the score one as well. -/
theorem search_of_isInfix {threshold minMatchLength : Value} {keys : List Text} {n : Rat}
    (hthreshold : threshold.IsThreshold) (hlength : minMatchLength.Denotes n) (hn : 1 ≤ n)
    (hne : keys ≠ []) (hknown : ∀ key ∈ keys, (Field.ofKey? key).isSome) (entries : List Entry) :
    ∃ index, build entries keys threshold minMatchLength = .ok index ∧
      ∀ (query : Text) (position : Nat) (e : Entry) (f : Field), n ≤ query.folded.length →
        entries[position]? = some e → f.key ∈ keys → query.folded <:+: fieldText f e →
        ∃ before m after, index.search query none = before ++ m :: after ∧
          m.position = position ∧ m.entry = e ∧ m.score = 1 ∧ ∀ m' ∈ before, m'.score = 1 := by
  obtain ⟨index, hbuild, hentries, hkeys, ht, hleast⟩ :=
    exists_build hthreshold (hlength.isLeastLength hn) hne hknown entries
  obtain ⟨-, -, -, h₀, h₁⟩ := checkThreshold_eq_ok_iff.mp ht
  refine ⟨index, hbuild, fun query position e f hlong he hf hquery => ?_⟩
  have hfields : f ∈ index.fields := by
    obtain ⟨g, hg, heq⟩ := List.mem_map.mp (hkeys.symm ▸ hf)
    exact Field.key_injective heq ▸ hg
  have hquery_ne : query.folded ≠ [] := by
    intro hnil
    rw [hnil] at hlong
    exact absurd (hn.trans hlong) (by norm_num)
  have hpoints : index.points? query.folded e = some 100 :=
    points?_eq_hundred_iff.mpr ⟨f, hfields, score_of_nested (nested_of_isInfix hquery hquery_ne)⟩
  exact (isRanking_ranking (isTooShort_eq_false hlength hleast hlong)).exists_eq_append
    (cutoff_le_hundred h₀ h₁) (hentries ▸ he) hpoints

/-- A query in capitals, which stands at the very end of a field, and the strictest threshold. -/
theorem search_of_isInfix_of_last_window :
    let e := Entry.build (some "DisplayText") none none "/** Shows it on screen */"
    let entries := [Entry.build (some "KillUnit") none none "/** a */", e]
    (Value.int 0).IsThreshold ∧ (Value.int 2).Denotes 2 ∧ 2 ≤ (Text.folded "ON SCREEN").length ∧
      Text.folded "ON SCREEN" <:+: fieldText .description e ∧
      ∃ index, build entries ["name", "description"] (.int 0) (.int 2) = .ok index ∧
        ∃ before m after, index.search "ON SCREEN" none = before ++ m :: after ∧ m.position = 1 ∧
          m.entry = e ∧ m.score = 1 ∧ ∀ m' ∈ before, m'.score = 1 := by
  intro e entries
  have hthreshold : (Value.int 0).IsThreshold := ⟨_, _, rfl, rfl, by decide, by decide⟩
  have hlength : (Value.int 2).Denotes 2 := ⟨_, rfl, by decide +kernel⟩
  have hlong : 2 ≤ (Text.folded "ON SCREEN").length := by decide +kernel
  have hinfix : Text.folded "ON SCREEN" <:+: fieldText .description e := by decide +kernel
  have hne : (["name", "description"] : List Text) ≠ [] := by decide
  obtain ⟨index, hbuild, hsearch⟩ :=
    search_of_isInfix hthreshold hlength (by norm_num) hne (by decide) entries
  exact ⟨hthreshold, hlength, hlong, hinfix, index, hbuild,
    hsearch "ON SCREEN" 1 e .description (by exact_mod_cast hlong) rfl (by decide) hinfix⟩

/-! ### The threshold zero -/

/-- The entries with a field that is nested with a folded query, in their order, each with the first
such field. -/
def nestedMatches (index : Index) (needle : Text) : List Match :=
  index.entries.zipIdx.filterMap fun (e, position) =>
    (index.fields.find? fun f => Nested needle (fieldText f e)).map fun f => ⟨e, 1, f, position⟩

theorem mem_nestedMatches_iff {m : Match} :
    m ∈ index.nestedMatches needle ↔
      index.entries[m.position]? = some m.entry ∧ m.score = 1 ∧
        index.fields.find? (fun f => Nested needle (fieldText f m.entry)) = some m.field := by
  obtain ⟨e, score, f, position⟩ := m
  simp only [nestedMatches, List.mem_filterMap, Option.map_eq_some_iff, Match.mk.injEq,
    Prod.exists, List.mem_zipIdx_iff_getElem?]
  constructor
  · rintro ⟨e, position, he, f, hf, rfl, rfl, rfl, rfl⟩
    exact ⟨he, rfl, hf⟩
  · rintro ⟨he, rfl, hf⟩
    exact ⟨e, position, he, f, hf, rfl, rfl, rfl, rfl⟩

/-- They stand in the order of their positions. -/
theorem pairwise_nestedMatches (index : Index) (needle : Text) :
    (index.nestedMatches needle).Pairwise fun a b => a.position < b.position := by
  have hpositions : (index.entries.zipIdx.map Prod.snd).Pairwise (· < ·) := by
    rw [List.zipIdx_map_snd]
    exact List.pairwise_lt_range'
  rw [nestedMatches, List.pairwise_filterMap]
  refine (List.pairwise_map.mp hpositions).imp fun {a b} hlt m hm m' hm' => ?_
  obtain ⟨-, -, rfl⟩ := Option.map_eq_some_iff.mp hm
  obtain ⟨-, -, rfl⟩ := Option.map_eq_some_iff.mp hm'
  exact hlt

/-- **All points are for nested fields** only, unless the query is long. -/
theorem fieldPoints_eq_hundred_iff (hlength : needle.length ≤ 2 ^ 52) :
    fieldPoints needle f e = 100 ↔ Nested needle (fieldText f e) :=
  score_eq_hundred_iff ((min_le_left _ _).trans hlength)

/-- **The ranking with the threshold zero** consists of the entries with a nested field. -/
theorem isRanking_nestedMatches (hzero : index.threshold = 0) (hlength : needle.length ≤ 2 ^ 52) :
    index.IsRanking needle (index.nestedMatches needle) := by
  have hcutoff : index.cutoff = 100 := by rw [cutoff, hzero, points_zero]
  have hnested (e : Entry) : (fun f => decide (Nested needle (fieldText f e))) =
      fun f => decide (fieldPoints needle f e = 100) :=
    funext fun f => decide_eq_decide.mpr (fieldPoints_eq_hundred_iff hlength).symm
  have hshows (m : Match) (hm : m ∈ index.nestedMatches needle) : index.Shows needle m ∧
      index.points? needle m.entry = some 100 := by
    obtain ⟨he, hscore, hfind⟩ := mem_nestedMatches_iff.mp hm
    rw [hnested] at hfind
    have hpoints : index.points? needle m.entry = some 100 :=
      points?_eq_hundred_iff.mpr
        ⟨m.field, List.mem_of_find?_eq_some hfind, by simpa using List.find?_some hfind⟩
    exact ⟨⟨he, 100, hpoints, hscore.trans (by decide +kernel), hfind⟩, hpoints⟩
  constructor
  case nodup =>
    exact List.pairwise_map.mpr ((index.pairwise_nestedMatches needle).imp fun h => h.ne)
  case mem_positions_iff =>
    intro position
    constructor
    · intro hmem
      obtain ⟨m, hm, rfl⟩ := List.mem_map.mp hmem
      obtain ⟨hshown, hpoints⟩ := hshows m hm
      exact ⟨m.entry, 100, hshown.1, hpoints, hcutoff.le⟩
    · rintro ⟨e, points, he, hpoints, henough⟩
      -- an entry with enough points has all of them, and so has one of its fields
      obtain rfl : points = 100 := le_antisymm (points?_le_hundred hpoints) (hcutoff ▸ henough)
      obtain ⟨f, hf, hfpoints⟩ := points?_eq_hundred_iff.mp hpoints
      have hsome : (index.fields.find? fun f => Nested needle (fieldText f e)).isSome :=
        List.find?_isSome.mpr
          ⟨f, hf, decide_eq_true ((fieldPoints_eq_hundred_iff hlength).mp hfpoints)⟩
      obtain ⟨g, hg⟩ := Option.isSome_iff_exists.mp hsome
      exact List.mem_map.mpr ⟨⟨e, 1, g, position⟩, mem_nestedMatches_iff.mpr ⟨he, rfl, hg⟩, rfl⟩
  case shows => exact fun m hm => (hshows m hm).1
  case ordered =>
    refine (index.pairwise_nestedMatches needle).imp_of_mem fun {a b} ha hb hlt x y hx hy => ?_
    obtain rfl := Option.some.inj ((hshows a ha).2.symm.trans hx)
    obtain rfl := Option.some.inj ((hshows b hb).2.symm.trans hy)
    exact .inr ⟨rfl, hlt⟩

/-- **What the threshold zero accepts.** A search can be set up with the threshold zero, a least
length and known keys. It finds nothing for a query that is too short. For any other one, of at most
`2 ^ 52` characters, it finds the entries with a searched field whose folded text is nested with the
folded query, within the limit, all with the score one and with the first such field; and that field
holds the query exactly if it is not shorter. -/
theorem search_eq_nestedMatches {threshold minMatchLength : Value} {keys : List Text}
    (hzero : threshold.Denotes 0) (hlength : minMatchLength.IsLeastLength) (hne : keys ≠ [])
    (hknown : ∀ key ∈ keys, (Field.ofKey? key).isSome) (entries : List Entry) :
    ∃ index, build entries keys threshold minMatchLength = .ok index ∧
      index.entries = entries ∧ index.fields.map Field.key = keys ∧
      ∀ (query : Text) (limit : Limit), query.folded.length ≤ 2 ^ 52 →
        let tooShort := ∃ x, minMatchLength.toBinary64? = some x ∧
          x.gtRat query.folded.length = true
        (tooShort → index.search query limit = []) ∧
        (¬ tooShort →
          index.search query limit = limit.apply (index.nestedMatches query.folded)) ∧
        ∀ m ∈ index.search query limit, (query.folded <:+: fieldText m.field m.entry ↔
          query.folded.length ≤ (fieldText m.field m.entry).length) := by
  obtain ⟨index, hbuild, hentries, hkeys, ht, hleast⟩ :=
    exists_build (hzero.isThreshold le_rfl zero_le_one) hlength hne hknown entries
  have hindex : index.threshold = 0 :=
    Except.ok.inj (ht.symm.trans (hzero.checkThreshold_eq_ok le_rfl zero_le_one))
  refine ⟨index, hbuild, hentries, hkeys, fun query limit hquery => ?_⟩
  have hshort : index.isTooShort query.folded = true → index.search query limit = [] := fun h => by
    rw [search, ranking_of_isTooShort h, limit.apply_nil]
  have hlong : index.isTooShort query.folded = false →
      index.search query limit = limit.apply (index.nestedMatches query.folded) := fun h => by
    rw [search, (isRanking_ranking h).unique (isRanking_nestedMatches hindex hquery)]
  refine ⟨fun h => hshort ((isTooShort_iff hleast _).mpr h), fun h => hlong ?_, fun m hm => ?_⟩
  · rw [Bool.eq_false_iff]
    exact mt (isTooShort_iff hleast _).mp h
  · cases h : index.isTooShort query.folded with
    | true =>
      rw [hshort h] at hm
      cases hm
    | false =>
      rw [hlong h] at hm
      obtain ⟨-, -, hfind⟩ := mem_nestedMatches_iff.mp ((limit.apply_prefix _).subset hm)
      have hnested : Nested query.folded (fieldText m.field m.entry) := by
        simpa using List.find?_some hfind
      exact ⟨fun hinfix => hinfix.length_le, hnested.isInfix⟩

/-- A query that holds one name, stands in another one, and is limited to one match. -/
theorem search_eq_nestedMatches_of_limit :
    let entries := [Entry.build (some "Kill") none none "/** a */",
      Entry.build (some "KillUnitAt") none none "/** b */"]
    (Value.int 0).Denotes 0 ∧ (Value.int 2).IsLeastLength ∧
      (Text.folded "KillUnit").length ≤ 2 ^ 52 ∧
      ∃ index, build entries ["name"] (.int 0) (.int 2) = .ok index ∧
        index.search "KillUnit" (some 1) =
          Limit.apply (some 1) (index.nestedMatches (Text.folded "KillUnit")) := by
  intro entries
  have hzero : (Value.int 0).Denotes 0 := ⟨_, rfl, by decide +kernel⟩
  have hlength : (Value.int 2).IsLeastLength := ⟨_, rfl, by decide⟩
  have hquery : (Text.folded "KillUnit").length ≤ 2 ^ 52 := by decide +kernel
  have hne : (["name"] : List Text) ≠ [] := by decide
  obtain ⟨index, hbuild, -, -, hsearch⟩ :=
    search_eq_nestedMatches hzero hlength hne (by decide) entries
  have hlong : ¬ ∃ x, (Value.int 2).toBinary64? = some x ∧
      x.gtRat (Text.folded "KillUnit").length = true := by
    rintro ⟨x, hx, hgt⟩
    obtain rfl := Option.some.inj hx
    revert hgt
    decide +kernel
  exact ⟨hzero, hlength, hquery, index, hbuild, (hsearch "KillUnit" (some 1) hquery).2.1 hlong⟩

/-- **The threshold zero accepts a name that stands in the query**, although the query does not
stand in the name. -/
theorem exists_match_without_query :
    ∃ index, build [Entry.build (some "KillUnit") (some "unit whichUnit") none "/** a */"] ["name"]
        (.float (.finite false 0)) (.int 2) = .ok index ∧
      ∃ m ∈ index.search "KillUnits" none,
        ¬ Text.folded "KillUnits" <:+: fieldText m.field m.entry := by
  refine ⟨⟨_, [.name], 0, some 2⟩, rfl, ?_⟩
  decide +kernel

end Index

end NativeFinder
