import NativeFinder.Proofs.Search.Building
import Mathlib.Data.List.Nodup
import Mathlib.Algebra.Order.Ring.Unbundled.Rat

/-!
# The ranking of a search

A search goes through the fields one after the other and merges what each of them reports, so
that its result seems to depend on the order of the fields and of the reports. `IsRanking` says
what the result is without a run: every entry whose best field has enough points once, with the
first of its best fields, by falling points and then in the order of the entries.
`search_eq_iff_isRanking` says that this describes exactly the result of a search, that the order
in which a field reports its entries does not matter, and what a limit leaves of the result.

The invariant of the merging is `Collects`: after some of the fields, there is at every position
what **leads** among these fields (`IsLead`), which is nothing as long as none of them has enough
points.
-/

namespace NativeFinder

namespace BestHits

/-! ### Merging one report -/

variable {best : BestHits} {field : Field} {report : List (Nat × Rat)} {position : Nat}

theorem merge_cons (points : Rat) :
    best.merge field ((position, points) :: report) =
      BestHits.merge (best.alter position fun before => some (Hit.orBetter ⟨points, field⟩ before))
        field report := rfl

/-- A report leaves alone the positions that it does not name. -/
theorem getElem?_merge_of_not_mem (h : position ∉ report.map Prod.fst) :
    (best.merge field report)[position]? = best[position]? := by
  induction report generalizing best with
  | nil => rfl
  | cons first report ih =>
    obtain ⟨p, points⟩ := first
    obtain ⟨hp, hreport⟩ : position ≠ p ∧ position ∉ report.map Prod.fst := by simpa using h
    rw [merge_cons, ih hreport, Std.TreeMap.getElem?_alter, if_neg (by simpa using hp.symm)]

/-- At a position that a report names once there is the better hit of the two. -/
theorem getElem?_merge_of_mem {points : Rat} (hnodup : (report.map Prod.fst).Nodup)
    (h : (position, points) ∈ report) :
    (best.merge field report)[position]? =
      some (Hit.orBetter ⟨points, field⟩ best[position]?) := by
  induction report generalizing best with
  | nil => cases h
  | cons first report ih =>
    obtain ⟨p, x⟩ := first
    obtain ⟨hp, hnodup⟩ : p ∉ report.map Prod.fst ∧ (report.map Prod.fst).Nodup := by
      simpa using hnodup
    rw [merge_cons]
    rcases List.mem_cons.mp h with heq | hmem
    · obtain ⟨rfl, rfl⟩ := Prod.mk.inj heq
      rw [getElem?_merge_of_not_mem hp, Std.TreeMap.getElem?_alter, if_pos (by simp)]
    · have hne : p ≠ position := by
        rintro rfl
        exact hp (List.mem_map_of_mem hmem)
      rw [ih hnodup hmem, Std.TreeMap.getElem?_alter, if_neg (by simpa using hne)]

/-! ### The order of the hits -/

theorem mem_ranked_iff {hit : Hit} :
    (position, hit) ∈ best.ranked ↔ best[position]? = some hit := by
  rw [ranked, List.mem_mergeSort, Std.TreeMap.mem_toList_iff_getElem?_eq_some]

/-- **The order in which hits stand**: more points first, and among equals the earlier position. -/
def Before (a b : Nat × Hit) : Prop :=
  b.2.points < a.2.points ∨ a.2.points = b.2.points ∧ a.1 < b.1

theorem standsBefore_iff {a b : Nat × Hit} :
    standsBefore a b = true ↔
      b.2.points < a.2.points ∨ a.2.points = b.2.points ∧ a.1 ≤ b.1 := by
  simp [standsBefore]

/-- Each hit has a position of its own. -/
theorem nodup_positions_ranked (best : BestHits) : (best.ranked.map Prod.fst).Nodup := by
  have hkeys : (best.toList.map Prod.fst).Nodup :=
    List.pairwise_map.mpr (Std.TreeMap.distinct_keys_toList.imp fun h heq => h (by simp [heq]))
  exact ((List.mergeSort_perm _ _).map _).nodup_iff.mpr hkeys

/-- The hits are in order. -/
theorem pairwise_ranked (best : BestHits) : best.ranked.Pairwise Before := by
  have hsorted : best.ranked.Pairwise fun a b => standsBefore a b = true := by
    refine List.pairwise_mergeSort (fun a b c hab hbc => ?_) (fun a b => ?_) _
    · rw [standsBefore_iff] at hab hbc ⊢
      rcases hab with hab | ⟨hab, hab'⟩ <;> rcases hbc with hbc | ⟨hbc, hbc'⟩
      · exact .inl (hbc.trans hab)
      · exact .inl (hbc ▸ hab)
      · exact .inl (hab ▸ hbc)
      · exact .inr ⟨hab.trans hbc, hab'.trans hbc'⟩
    · rw [Bool.or_eq_true, standsBefore_iff, standsBefore_iff]
      rcases lt_trichotomy a.2.points b.2.points with hlt | heq | hlt
      · exact .inr (.inl hlt)
      · exact (Nat.le_total a.1 b.1).imp (fun h => .inr ⟨heq, h⟩) fun h => .inr ⟨heq.symm, h⟩
      · exact .inl (.inl hlt)
  have hdistinct : best.ranked.Pairwise fun a b => a.1 ≠ b.1 :=
    List.pairwise_map.mp (nodup_positions_ranked best)
  refine (hsorted.and hdistinct).imp fun ⟨hab, hne⟩ => ?_
  rcases standsBefore_iff.mp hab with hlt | ⟨heq, hle⟩
  · exact .inl hlt
  · exact .inr ⟨heq, Nat.lt_of_le_of_ne hle hne⟩

end BestHits

namespace Index

variable {index : Index} {needle : Text} {fields : List Field} {e : Entry}

/-! ### What leads among some fields -/

/-- What **leads** among some fields of an entry: nothing if none of them has enough points, else
the first of those with the most points. -/
def IsLead (index : Index) (needle : Text) (fields : List Field) (e : Entry) : Option Hit → Prop
  | none => ∀ f ∈ fields, fieldPoints needle f e < index.cutoff
  | some hit =>
    index.cutoff ≤ hit.points ∧ (∀ f ∈ fields, fieldPoints needle f e ≤ hit.points) ∧
      fields.find? (fun f => fieldPoints needle f e = hit.points) = some hit.field

theorem isLead_nil : index.IsLead needle [] e none := fun _ h => absurd h List.not_mem_nil

/-- One more field without enough points changes nothing. -/
theorem IsLead.append_of_lt {lead : Option Hit} {f : Field} (h : index.IsLead needle fields e lead)
    (hf : fieldPoints needle f e < index.cutoff) :
    index.IsLead needle (fields ++ [f]) e lead := by
  cases lead with
  | none => exact List.forall_mem_append.mpr ⟨h, by simpa using hf⟩
  | some hit =>
    obtain ⟨henough, hgreatest, hfirst⟩ := h
    have hle : fieldPoints needle f e ≤ hit.points := hf.le.trans henough
    refine ⟨henough, List.forall_mem_append.mpr ⟨hgreatest, by simpa using hle⟩, ?_⟩
    rw [List.find?_append, hfirst, Option.some_or]

/-- One more field with enough points leads if it is better than all before it. -/
theorem IsLead.append_of_le {lead : Option Hit} {f : Field} (h : index.IsLead needle fields e lead)
    (hf : index.cutoff ≤ fieldPoints needle f e) :
    index.IsLead needle (fields ++ [f]) e
      (some (Hit.orBetter ⟨fieldPoints needle f e, f⟩ lead)) := by
  -- the new field is the first with its points if all before it have fewer
  have hnew (hbefore : ∀ g ∈ fields, fieldPoints needle g e < fieldPoints needle f e) :
      index.IsLead needle (fields ++ [f]) e (some ⟨fieldPoints needle f e, f⟩) := by
    have hnone : fields.find? (fun g => fieldPoints needle g e = fieldPoints needle f e) = none :=
      List.find?_eq_none.mpr fun g hg => by simpa using (hbefore g hg).ne
    refine ⟨hf, List.forall_mem_append.mpr ⟨fun g hg => (hbefore g hg).le, by simp⟩, ?_⟩
    rw [List.find?_append, hnone, Option.none_or]
    simp
  cases lead with
  | none => exact hnew fun g hg => (h g hg).trans_le hf
  | some hit =>
    obtain ⟨henough, hgreatest, hfirst⟩ := h
    by_cases hlt : hit.points < fieldPoints needle f e
    · rw [Hit.orBetter, if_pos hlt]
      exact hnew fun g hg => (hgreatest g hg).trans_lt hlt
    · rw [Hit.orBetter, if_neg hlt]
      have hle : fieldPoints needle f e ≤ hit.points := not_lt.mp hlt
      refine ⟨henough, List.forall_mem_append.mpr ⟨hgreatest, by simpa using hle⟩, ?_⟩
      rw [List.find?_append, hfirst, Option.some_or]

/-! ### Merging the reports -/

/-- A **report** of a field names every entry with enough points once, with its points, in any
order. -/
structure IsReport (index : Index) (needle : Text) (field : Field) (report : List (Nat × Rat)) :
    Prop where
  nodup : (report.map Prod.fst).Nodup
  mem_iff : ∀ position points, (position, points) ∈ report ↔
    ∃ e, index.entries[position]? = some e ∧ points = fieldPoints needle field e ∧
      index.cutoff ≤ points

/-- The positions in a report are those of the entries with enough points. -/
theorem IsReport.mem_positions_iff {f : Field} {report : List (Nat × Rat)}
    (h : index.IsReport needle f report) {position : Nat} :
    position ∈ report.map Prod.fst ↔
      ∃ e, index.entries[position]? = some e ∧ index.cutoff ≤ fieldPoints needle f e := by
  constructor
  · intro hmem
    obtain ⟨⟨p, x⟩, hpx, rfl⟩ := List.mem_map.mp hmem
    obtain ⟨e, he, rfl, hx⟩ := (h.mem_iff _ _).mp hpx
    exact ⟨e, he, hx⟩
  · rintro ⟨e, he, hx⟩
    exact List.mem_map_of_mem ((h.mem_iff _ _).mpr ⟨e, he, rfl, hx⟩)

/-- The hits at all positions are what leads there among the fields merged so far. -/
structure Collects (index : Index) (needle : Text) (fields : List Field) (best : BestHits) :
    Prop where
  isLead : ∀ (position : Nat) (e : Entry), index.entries[position]? = some e →
    index.IsLead needle fields e best[position]?
  eq_none : ∀ position : Nat, index.entries[position]? = none → best[position]? = none

theorem collects_empty : index.Collects needle [] ∅ where
  isLead position e _ := by
    rw [Std.TreeMap.getElem?_emptyc]
    exact isLead_nil
  eq_none _ _ := Std.TreeMap.getElem?_emptyc

/-- **The report of one more field** is merged. -/
theorem Collects.merge {best : BestHits} (h : index.Collects needle fields best) {f : Field}
    {report : List (Nat × Rat)} (hreport : index.IsReport needle f report) :
    index.Collects needle (fields ++ [f]) (best.merge f report) := by
  constructor
  case isLead =>
    intro position e he
    by_cases hf : index.cutoff ≤ fieldPoints needle f e
    · have hmem : (position, fieldPoints needle f e) ∈ report :=
        (hreport.mem_iff _ _).mpr ⟨e, he, rfl, hf⟩
      rw [BestHits.getElem?_merge_of_mem hreport.nodup hmem]
      exact (h.isLead position e he).append_of_le hf
    · have hnot : position ∉ report.map Prod.fst := by
        rw [hreport.mem_positions_iff]
        rintro ⟨e', he', hx⟩
        exact hf (Option.some.inj (he.symm.trans he') ▸ hx)
      rw [BestHits.getElem?_merge_of_not_mem hnot]
      exact (h.isLead position e he).append_of_lt (not_le.mp hf)
  case eq_none =>
    intro position hnone
    have hnot : position ∉ report.map Prod.fst := by simp [hreport.mem_positions_iff, hnone]
    rw [BestHits.getElem?_merge_of_not_mem hnot]
    exact h.eq_none position hnone

/-- All reports, one after the other, are merged. -/
theorem Collects.foldl_merge {report : Field → List (Nat × Rat)} {later : List Field}
    (hreport : ∀ f ∈ later, index.IsReport needle f (report f)) {best : BestHits}
    (h : index.Collects needle fields best) :
    index.Collects needle (fields ++ later)
      (later.foldl (fun best f => best.merge f (report f)) best) := by
  induction later generalizing fields best with
  | nil => simpa using h
  | cons f later ih =>
    obtain ⟨hf, hlater⟩ := List.forall_mem_cons.mp hreport
    rw [List.foldl_cons, List.append_cons]
    exact ih hlater (h.merge hf)

/-! ### The ranking -/

/-- The points of an entry: the greatest of those of its searched fields. -/
def points? (index : Index) (needle : Text) (e : Entry) : Option Rat :=
  (index.fields.map fun f => fieldPoints needle f e).max?

/-- A match **shows** the entry at its position, with the score that comes of its points and the
first of the fields that have as many. -/
def Shows (index : Index) (needle : Text) (m : Match) : Prop :=
  index.entries[m.position]? = some m.entry ∧
    ∃ points, index.points? needle m.entry = some points ∧
      m.score = Binary64.nearest (points / 100) ∧
      index.fields.find? (fun f => fieldPoints needle f m.entry = points) = some m.field

/-- The **ranking** of the entries for a folded query. -/
structure IsRanking (index : Index) (needle : Text) (ms : List Match) : Prop where
  /-- No entry has two matches. -/
  nodup : (ms.map Match.position).Nodup
  /-- The entries with enough points have one. -/
  mem_positions_iff : ∀ position, position ∈ ms.map Match.position ↔
    ∃ e points, index.entries[position]? = some e ∧ index.points? needle e = some points ∧
      index.cutoff ≤ points
  shows : ∀ m ∈ ms, index.Shows needle m
  /-- More points stand first, and among equals the earlier entry. -/
  ordered : ms.Pairwise fun a b => ∀ x y, index.points? needle a.entry = some x →
    index.points? needle b.entry = some y → y < x ∨ x = y ∧ a.position < b.position

/-- What leads among all fields has the points of the entry. -/
theorem IsLead.points?_eq {hit : Hit} (h : index.IsLead needle index.fields e (some hit)) :
    index.points? needle e = some hit.points := by
  obtain ⟨-, hgreatest, hfirst⟩ := h
  have hpoints : fieldPoints needle hit.field e = hit.points := by
    simpa using List.find?_some hfirst
  rw [points?, List.max?_eq_some_iff]
  refine ⟨List.mem_map.mpr ⟨hit.field, List.mem_of_find?_eq_some hfirst, hpoints⟩, ?_⟩
  simpa using hgreatest

/-- Nothing leads among all fields if the entry has not enough points. -/
theorem IsLead.eq_none_iff {lead : Option Hit} (h : index.IsLead needle index.fields e lead) :
    lead = none ↔ ∀ points, index.points? needle e = some points → points < index.cutoff := by
  cases lead with
  | none =>
    refine iff_of_true rfl fun points hpoints => ?_
    obtain ⟨hmem, -⟩ := List.max?_eq_some_iff.mp hpoints
    obtain ⟨f, hf, rfl⟩ := List.mem_map.mp hmem
    exact h f hf
  | some hit =>
    refine iff_of_false (by simp) fun hlt => ?_
    exact absurd (hlt _ h.points?_eq) (not_lt.mpr h.1)

/-- **What the reports come to**: at every position there is what leads among all fields. -/
theorem collects_collect {report : Field → List (Nat × Rat)}
    (hreport : ∀ f ∈ index.fields, index.IsReport needle f (report f)) :
    index.Collects needle index.fields (index.collect report) := by
  have h := collects_empty.foldl_merge hreport
  rwa [List.nil_append] at h

theorem match?_eq_some_iff {hit : Nat × Hit} {m : Match} :
    index.match? hit = some m ↔
      index.entries[hit.1]? = some m.entry ∧ m.position = hit.1 ∧ m.field = hit.2.field ∧
        m.score = Binary64.nearest (hit.2.points / 100) := by
  obtain ⟨e, score, field, position⟩ := m
  simp only [match?, Option.map_eq_some_iff, Match.mk.injEq]
  constructor
  · rintro ⟨e', he', rfl, rfl, rfl, rfl⟩
    exact ⟨he', rfl, rfl, rfl⟩
  · rintro ⟨he, rfl, rfl, rfl⟩
    exact ⟨e, he, rfl, rfl, rfl, rfl⟩

/-- A match comes of the hit that leads among the fields of its entry. -/
theorem Collects.isLead_of_match? {best : BestHits} (h : index.Collects needle fields best)
    {hit : Nat × Hit} (hhit : hit ∈ best.ranked) {m : Match} (hm : index.match? hit = some m) :
    index.IsLead needle fields m.entry (some hit.2) := by
  have hlead := h.isLead hit.1 m.entry (match?_eq_some_iff.mp hm).1
  rwa [BestHits.mem_ranked_iff.mp hhit] at hlead

/-- **Merging yields the ranking**, whatever the order in which the fields report. -/
theorem isRanking_merged {report : Field → List (Nat × Rat)}
    (hreport : ∀ f ∈ index.fields, index.IsReport needle f (report f)) :
    index.IsRanking needle (index.merged report) := by
  have hcollect := collects_collect hreport
  constructor
  case nodup =>
    rw [List.Nodup, List.pairwise_map, merged, List.pairwise_filterMap]
    refine (List.pairwise_map.mp (BestHits.nodup_positions_ranked _)).imp ?_
    intro a b hne m hm m' hm'
    rwa [(match?_eq_some_iff.mp hm).2.1, (match?_eq_some_iff.mp hm').2.1]
  case mem_positions_iff =>
    intro position
    constructor
    · intro hmem
      obtain ⟨m, hm, rfl⟩ := List.mem_map.mp hmem
      obtain ⟨hit, hhit, hmatch⟩ := List.mem_filterMap.mp hm
      obtain ⟨he, hposition, -⟩ := match?_eq_some_iff.mp hmatch
      have hlead := hcollect.isLead_of_match? hhit hmatch
      exact ⟨m.entry, hit.2.points, hposition ▸ he, hlead.points?_eq, hlead.1⟩
    · rintro ⟨e, points, he, hpoints, henough⟩
      have hlead := hcollect.isLead position e he
      obtain ⟨hit, hhit⟩ := Option.ne_none_iff_exists'.mp fun hnone =>
        not_lt.mpr henough (hlead.eq_none_iff.mp hnone points hpoints)
      have hmatch : index.match? (position, hit) = some
          ⟨e, Binary64.nearest (hit.points / 100), hit.field, position⟩ :=
        match?_eq_some_iff.mpr ⟨he, rfl, rfl, rfl⟩
      exact List.mem_map.mpr
        ⟨_, List.mem_filterMap.mpr ⟨_, BestHits.mem_ranked_iff.mpr hhit, hmatch⟩, rfl⟩
  case shows =>
    intro m hm
    obtain ⟨hit, hhit, hmatch⟩ := List.mem_filterMap.mp hm
    obtain ⟨he, hposition, hfield, hscore⟩ := match?_eq_some_iff.mp hmatch
    have hlead := hcollect.isLead_of_match? hhit hmatch
    exact ⟨hposition ▸ he, hit.2.points, hlead.points?_eq, hscore, hfield ▸ hlead.2.2⟩
  case ordered =>
    rw [merged, List.pairwise_filterMap]
    refine (BestHits.pairwise_ranked _).imp_of_mem ?_
    intro a b ha hb hbefore m hm m' hm' x y hx hy
    obtain rfl := Option.some.inj ((hcollect.isLead_of_match? ha hm).points?_eq.symm.trans hx)
    obtain rfl := Option.some.inj ((hcollect.isLead_of_match? hb hm').points?_eq.symm.trans hy)
    rwa [(match?_eq_some_iff.mp hm).2.1, (match?_eq_some_iff.mp hm').2.1]

/-! ### Its uniqueness -/

/-- A match is determined by its position. -/
theorem Shows.unique {m m' : Match} (h : index.Shows needle m) (h' : index.Shows needle m')
    (hposition : m.position = m'.position) : m = m' := by
  obtain ⟨e, score, field, position⟩ := m
  obtain ⟨e', score', field', position'⟩ := m'
  obtain rfl : position = position' := hposition
  obtain ⟨he, points, hpoints, rfl, hfield⟩ := h
  obtain ⟨he', points', hpoints', rfl, hfield'⟩ := h'
  obtain rfl : e = e' := Option.some.inj (he.symm.trans he')
  obtain rfl : points = points' := Option.some.inj (hpoints.symm.trans hpoints')
  obtain rfl : field = field' := Option.some.inj (hfield.symm.trans hfield')
  rfl

theorem IsRanking.mem_of_mem {ms ms' : List Match} (h : index.IsRanking needle ms)
    (h' : index.IsRanking needle ms') {m : Match} (hm : m ∈ ms) : m ∈ ms' := by
  have hposition : m.position ∈ ms'.map Match.position :=
    (h'.mem_positions_iff _).mpr ((h.mem_positions_iff _).mp (List.mem_map_of_mem hm))
  obtain ⟨m', hm', heq⟩ := List.mem_map.mp hposition
  rwa [(h.shows m hm).unique (h'.shows m' hm') heq.symm]

/-- **There is one ranking** for an index and a query. -/
theorem IsRanking.unique {ms ms' : List Match} (h : index.IsRanking needle ms)
    (h' : index.IsRanking needle ms') : ms = ms' := by
  have hperm : ms.Perm ms' :=
    (List.perm_ext_iff_of_nodup h.nodup.of_map h'.nodup.of_map).mpr fun _ =>
      ⟨h.mem_of_mem h', h'.mem_of_mem h⟩
  refine hperm.eq_of_pairwise (fun a b ha hb hab hba => ?_) h.ordered h'.ordered
  -- of two matches at most one stands before the other
  obtain ⟨-, x, hx, -⟩ := h.shows a ha
  obtain ⟨-, y, hy, -⟩ := h'.shows b hb
  rcases hab x y hx hy with hlt | ⟨rfl, hlt⟩
  · rcases hba y x hy hx with hgt | ⟨rfl, -⟩
    · exact absurd hgt hlt.asymm
    · exact absurd hlt (lt_irrefl _)
  · rcases hba x x hy hx with hgt | ⟨-, hgt⟩
    · exact absurd hgt (lt_irrefl _)
    · omega

/-! ### Searches -/

/-- What a field reports in a search. -/
theorem isReport_report (index : Index) (needle : Text) (f : Field) :
    index.IsReport needle f (index.report needle f) := by
  constructor
  case nodup =>
    have hpositions : (index.entries.zipIdx.map Prod.snd).Nodup := by
      rw [List.zipIdx_map_snd]
      exact List.nodup_range'
    rw [List.Nodup, List.pairwise_map, report, List.pairwise_filterMap]
    refine (List.pairwise_map.mp hpositions).imp ?_
    intro a b hne reported ha reported' hb
    obtain ⟨-, rfl⟩ : _ ∧ (a.2, fieldPoints needle f a.1) = reported := by simpa using ha
    obtain ⟨-, rfl⟩ : _ ∧ (b.2, fieldPoints needle f b.1) = reported' := by simpa using hb
    exact hne
  case mem_iff =>
    intro position points
    rw [report, List.mem_filterMap]
    constructor
    · rintro ⟨⟨e, p⟩, he, hreported⟩
      obtain ⟨henough, rfl, rfl⟩ : index.cutoff ≤ fieldPoints needle f e ∧ p = position ∧
          fieldPoints needle f e = points := by
        simpa using hreported
      exact ⟨e, List.mem_zipIdx_iff_getElem?.mp he, rfl, henough⟩
    · rintro ⟨e, he, rfl, henough⟩
      exact ⟨(e, position), List.mem_zipIdx_iff_getElem?.mpr he, by simp [not_lt.mpr henough]⟩

/-- **The ranking of a query** that is not too short. -/
theorem isRanking_ranking {query : Text} (h : index.isTooShort query.folded = false) :
    index.IsRanking query.folded (index.ranking query) := by
  have hranking : index.ranking query = index.merged (index.report query.folded) := by
    simp [ranking, h]
  rw [hranking]
  exact isRanking_merged fun f _ => index.isReport_report query.folded f

theorem ranking_of_isTooShort {query : Text} (h : index.isTooShort query.folded = true) :
    index.ranking query = [] := by
  simp [ranking, h]

/-- A search with an integer limit cuts the ranking: a limit that is not negative keeps that many
matches, a negative one drops as many from the end. -/
theorem search_some (index : Index) (query : Text) (n : Int) :
    index.search query (some n) =
      (index.ranking query).take
        (if 0 ≤ n then n else (index.ranking query).length + n).toNat := by
  cases n with
  | ofNat n => simp [search, Limit.apply]
  | negSucc n =>
    have hlength : ((index.ranking query).length + Int.negSucc n).toNat =
        (index.ranking query).length - (n + 1) := by omega
    rw [if_neg (by omega), hlength]
    rfl

/-- **A search yields the ranking.** It can be set up with a threshold, a least length and known
keys; its result is empty for a query that is too short, and otherwise the ranking, in whatever
order the fields report their entries. A limit cuts the result. -/
theorem search_eq_iff_isRanking {threshold minMatchLength : Value} {keys : List Text}
    (hthreshold : threshold.IsThreshold) (hlength : minMatchLength.IsLeastLength)
    (hne : keys ≠ []) (hknown : ∀ key ∈ keys, (Field.ofKey? key).isSome) (entries : List Entry) :
    ∃ index, build entries keys threshold minMatchLength = .ok index ∧
      index.entries = entries ∧ index.fields.map Field.key = keys ∧
      (∃ x, threshold.toBinary64? = some x ∧ x.toRat? = some index.threshold) ∧
      ∀ query,
        let tooShort := ∃ x, minMatchLength.toBinary64? = some x ∧
          x.gtRat query.folded.length = true
        (tooShort → index.search query none = []) ∧
        (¬ tooShort →
          (∀ ms, ms = index.search query none ↔ index.IsRanking query.folded ms) ∧
          ∀ report, (∀ f ∈ index.fields, index.IsReport query.folded f (report f)) →
            index.merged report = index.search query none) ∧
        ∀ n : Int, index.search query (some n) =
          (index.search query none).take
            (if 0 ≤ n then n else (index.search query none).length + n).toNat := by
  obtain ⟨index, hbuild, hentries, hkeys, ht, hn⟩ :=
    exists_build hthreshold hlength hne hknown entries
  obtain ⟨x, hx, hxt, -⟩ := checkThreshold_eq_ok_iff.mp ht
  refine ⟨index, hbuild, hentries, hkeys, ⟨x, hx, hxt⟩, fun query => ⟨fun hshort => ?_,
    fun hlong => ?_, index.search_some query⟩⟩
  · exact ranking_of_isTooShort ((isTooShort_iff hn _).mpr hshort)
  · have hlong' : index.isTooShort query.folded = false := by
      rw [Bool.eq_false_iff]
      exact mt (isTooShort_iff hn _).mp hlong
    have hranking := isRanking_ranking hlong'
    refine ⟨fun ms => ⟨?_, fun hms => hms.unique hranking⟩, fun report hreport => ?_⟩
    · rintro rfl
      exact hranking
    · exact (isRanking_merged hreport).unique hranking

/-- Two equal entries, and a key that is named twice. -/
theorem search_eq_iff_isRanking_of_duplicates :
    let e := Entry.build (some "KillUnit") (some "unit whichUnit") none "/** Kills the unit */"
    (Value.int 0).IsThreshold ∧ (Value.int 2).IsLeastLength ∧
      ∃ index, build [e, e] ["name", "description", "name"] (.int 0) (.int 2) = .ok index ∧
        index.entries = [e, e] ∧
        ∀ ms, ms = index.search "unit" none ↔ index.IsRanking (Text.folded "unit") ms := by
  intro e
  have hthreshold : (Value.int 0).IsThreshold := ⟨_, _, rfl, rfl, by decide, by decide⟩
  have hlength : (Value.int 2).IsLeastLength := ⟨_, rfl, by decide⟩
  have hne : (["name", "description", "name"] : List Text) ≠ [] := by decide
  obtain ⟨index, hbuild, hentries, -, -, hsearch⟩ :=
    search_eq_iff_isRanking hthreshold hlength hne (by decide) [e, e]
  have hlong : ¬ ∃ x, (Value.int 2).toBinary64? = some x ∧
      x.gtRat (Text.folded "unit").length = true := by
    rintro ⟨x, hx, hgt⟩
    obtain rfl := Option.some.inj hx
    revert hgt
    decide +kernel
  exact ⟨hthreshold, hlength, index, hbuild, hentries, ((hsearch "unit").2.1 hlong).1⟩

end Index

end NativeFinder
