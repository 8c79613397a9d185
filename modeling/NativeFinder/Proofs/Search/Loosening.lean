import NativeFinder.Proofs.Search.Ranking
import NativeFinder.Proofs.Search.Similarity
import Mathlib.Data.List.TakeWhile

/-!
# Loosening the threshold of a search

With a looser threshold more fields have enough points, and each of them could make another field
the best one of its entry, or move an entry. `search_prefix_of_threshold_le` says that they do not:
the result with the stricter threshold is an initial part of the result with the looser one.

What carries this is that the points of an entry are the greatest of all its searched fields, with
or without enough points, so that they do not depend on the threshold. Of the ranking with the
looser threshold, the matches with enough points for the stricter one are therefore its ranking
(`IsRanking.filter`), and since the points fall, they stand first.
-/

namespace NativeFinder

/-- A value that stands for a number. -/
def Value.Denotes (v : Value) (r : Rat) : Prop := ∃ x, v.toBinary64? = some x ∧ x.toRat? = some r

theorem Value.Denotes.checkThreshold_eq_ok {v : Value} {t : Rat} (h : v.Denotes t) (h₀ : 0 ≤ t)
    (h₁ : t ≤ 1) : checkThreshold v = .ok t := by
  obtain ⟨x, hx, ht⟩ := h
  exact checkThreshold_eq_ok_iff.mpr ⟨x, hx, ht, h₀, h₁⟩

theorem Value.Denotes.isThreshold {v : Value} {t : Rat} (h : v.Denotes t) (h₀ : 0 ≤ t)
    (h₁ : t ≤ 1) : v.IsThreshold :=
  exists_checkThreshold_iff.mp ⟨t, h.checkThreshold_eq_ok h₀ h₁⟩

/-- Where the items with a property come first, they are what is taken. -/
theorem takeWhile_eq_filter_of_pairwise {α : Type} {p : α → Bool} {l : List α}
    (h : l.Pairwise fun a b => p b = true → p a = true) : l.takeWhile p = l.filter p := by
  induction l with
  | nil => rfl
  | cons a l ih =>
    obtain ⟨ha, hl⟩ := List.pairwise_cons.mp h
    by_cases hpa : p a = true
    · rw [List.takeWhile_cons_of_pos hpa, List.filter_cons_of_pos hpa, ih hl]
    · have hnone : l.filter p = [] :=
        List.filter_eq_nil_iff.mpr fun b hb hpb => hpa (ha b hb hpb)
      rw [List.takeWhile_cons_of_neg hpa, List.filter_cons_of_neg hpa, hnone]

namespace Index

variable {index : Index} {needle : Text} {ms : List Match} {t : Rat}

/-- The same index with another threshold. -/
def withThreshold (index : Index) (t : Rat) : Index := { index with threshold := t }

/-- Whether a match has enough points for an index. -/
def reaches (index : Index) (needle : Text) (m : Match) : Bool :=
  (index.points? needle m.entry).any (index.cutoff ≤ ·)

theorem reaches_iff {m : Match} :
    index.reaches needle m = true ↔
      ∃ points, index.points? needle m.entry = some points ∧ index.cutoff ≤ points := by
  simp [reaches, Option.any_eq_true]

/-- A looser threshold needs fewer points. -/
theorem cutoff_withThreshold_le (hle : index.threshold ≤ t) (h₁ : t ≤ 1) :
    (index.withThreshold t).cutoff ≤ index.cutoff :=
  Similarity.points_anti hle h₁

/-- **The ranking with a stricter threshold** consists of the matches that have enough points. -/
theorem IsRanking.filter (h : (index.withThreshold t).IsRanking needle ms)
    (hcutoff : (index.withThreshold t).cutoff ≤ index.cutoff) :
    index.IsRanking needle (ms.filter (index.reaches needle)) := by
  constructor
  case nodup => exact h.nodup.sublist (List.filter_sublist.map _)
  case mem_positions_iff =>
    intro position
    constructor
    · intro hmem
      obtain ⟨m, hm, rfl⟩ := List.mem_map.mp hmem
      obtain ⟨hm, hreaches⟩ := List.mem_filter.mp hm
      obtain ⟨points, hpoints, henough⟩ := reaches_iff.mp hreaches
      exact ⟨m.entry, points, (h.shows m hm).1, hpoints, henough⟩
    · rintro ⟨e, points, he, hpoints, henough⟩
      -- what is enough for the stricter threshold is enough for the looser one
      obtain ⟨m, hm, rfl⟩ := List.mem_map.mp
        ((h.mem_positions_iff position).mpr ⟨e, points, he, hpoints, hcutoff.trans henough⟩)
      obtain rfl : m.entry = e := Option.some.inj ((h.shows m hm).1.symm.trans he)
      exact List.mem_map_of_mem
        (List.mem_filter.mpr ⟨hm, reaches_iff.mpr ⟨points, hpoints, henough⟩⟩)
  case shows => exact fun m hm => h.shows m (List.mem_of_mem_filter hm)
  case ordered => exact h.ordered.filter _

/-- In a ranking the matches with enough points for another threshold come first. -/
theorem IsRanking.pairwise_reaches (h : (index.withThreshold t).IsRanking needle ms) :
    ms.Pairwise fun a b => index.reaches needle b = true → index.reaches needle a = true := by
  refine h.ordered.imp_of_mem fun {a b} ha hb hbefore hreaches => ?_
  obtain ⟨y, hy, henough⟩ := reaches_iff.mp hreaches
  obtain ⟨-, x, hx, -⟩ := h.shows a ha
  refine reaches_iff.mpr ⟨x, hx, henough.trans ?_⟩
  rcases hbefore x y hx hy with hlt | ⟨rfl, -⟩
  · exact hlt.le
  · exact le_rfl

/-- **Loosening the threshold** of an index only appends to its rankings. -/
theorem ranking_prefix_withThreshold (hle : index.threshold ≤ t) (h₁ : t ≤ 1) (query : Text) :
    index.ranking query <+: (index.withThreshold t).ranking query := by
  cases hshort : index.isTooShort query.folded with
  | true =>
    rw [ranking_of_isTooShort hshort]
    exact List.nil_prefix
  | false =>
    have hloose : (index.withThreshold t).IsRanking query.folded
        ((index.withThreshold t).ranking query) := isRanking_ranking hshort
    have hstrict := hloose.filter (cutoff_withThreshold_le hle h₁)
    rw [(isRanking_ranking hshort).unique hstrict,
      ← takeWhile_eq_filter_of_pairwise hloose.pairwise_reaches]
    exact List.takeWhile_prefix _

/-- **A looser threshold only appends.** Searches can be set up over the same entries and keys with
two thresholds from `0` to `1`; then the result of a query with the smaller one is an initial part
of its result with the greater one, with the same entries, positions, scores and fields. -/
theorem search_prefix_of_threshold_le {threshold looser minMatchLength : Value} {t t' : Rat}
    {keys : List Text} (ht : threshold.Denotes t) (ht' : looser.Denotes t') (h₀ : 0 ≤ t)
    (hle : t ≤ t') (h₁ : t' ≤ 1) (hlength : minMatchLength.IsLeastLength) (hne : keys ≠ [])
    (hknown : ∀ key ∈ keys, (Field.ofKey? key).isSome) (entries : List Entry) :
    ∃ index index', build entries keys threshold minMatchLength = .ok index ∧
      build entries keys looser minMatchLength = .ok index' ∧
      ∀ query, index.search query none <+: index'.search query none := by
  obtain ⟨index, hbuild, -, -, hthreshold, -⟩ :=
    exists_build (ht.isThreshold h₀ (hle.trans h₁)) hlength hne hknown entries
  obtain ⟨hentries, hkeys, -, hleast⟩ := build_eq_ok_iff.mp hbuild
  have htindex : index.threshold = t :=
    Except.ok.inj (hthreshold.symm.trans (ht.checkThreshold_eq_ok h₀ (hle.trans h₁)))
  refine ⟨index, index.withThreshold t', hbuild, build_eq_ok_iff.mpr ⟨hentries, hkeys, ?_, hleast⟩,
    fun query => ranking_prefix_withThreshold (htindex.trans_le hle) h₁ query⟩
  exact ht'.checkThreshold_eq_ok (h₀.trans hle) h₁

/-- Two thresholds of different kinds, and an entry with a slip in its name, which only the looser
one accepts. -/
theorem search_prefix_of_threshold_le_of_slip :
    let entries := [Entry.build (some "KilUlnit") none none "/** a */",
      Entry.build (some "KillUnit") none none "/** b */"]
    let looser := Binary64.ofRat (3 / 10)
    (Value.int 0).Denotes 0 ∧ (Value.float looser).Denotes (5404319552844595 / 2 ^ 54) ∧
      (Value.int 2).IsLeastLength ∧
      ∃ index index', build entries ["name", "signature"] (.int 0) (.int 2) = .ok index ∧
        build entries ["name", "signature"] (.float looser) (.int 2) = .ok index' ∧
        index.search "killunit" none <+: index'.search "killunit" none := by
  intro entries looser
  have ht : (Value.int 0).Denotes 0 := ⟨_, rfl, by decide +kernel⟩
  have ht' : (Value.float looser).Denotes (5404319552844595 / 2 ^ 54) :=
    ⟨_, rfl, by decide +kernel⟩
  have hlength : (Value.int 2).IsLeastLength := ⟨_, rfl, by decide⟩
  have hne : (["name", "signature"] : List Text) ≠ [] := by decide
  obtain ⟨index, index', hbuild, hbuild', hsearch⟩ :=
    search_prefix_of_threshold_le ht ht' (by decide +kernel) (by decide +kernel)
      (by decide +kernel) hlength hne (by decide) entries
  exact ⟨ht, ht', hlength, index, index', hbuild, hbuild', hsearch "killunit"⟩

end Index

end NativeFinder
