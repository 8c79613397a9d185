import NativeFinder.Search.Index

/-!
# When a search can be set up

The settings of a search come as free values, and `Index.build` checks them. It succeeds exactly
with a **threshold**, a number from `0` to `1`, a **least length**, a number that is not below `1`,
and keys that are all known, at least one. There is one lemma for each check, and `exists_build`
and `exists_build_defaultKeys_iff` put them together.

What the checks make of the values is what they say: the fields are those of the keys in order
(`checkKeys_eq_ok`), and a query is too short for an index exactly when the least length is above
its length (`isTooShort_iff`).
-/

namespace NativeFinder

/-! ### The checks -/

/-- A value that can be the threshold of a search: a number from `0` to `1`. -/
def Value.IsThreshold (v : Value) : Prop :=
  ∃ x t, v.toBinary64? = some x ∧ x.toRat? = some t ∧ 0 ≤ t ∧ t ≤ 1

/-- A value that can be the least length of a query: a number that is not below `1`. -/
def Value.IsLeastLength (v : Value) : Prop :=
  ∃ x, v.toBinary64? = some x ∧ x.ltRat 1 = false

theorem checkThreshold_eq_ok_iff {v : Value} {t : Rat} :
    checkThreshold v = .ok t ↔
      ∃ x, v.toBinary64? = some x ∧ x.toRat? = some t ∧ 0 ≤ t ∧ t ≤ 1 := by
  constructor
  · intro h
    simp only [checkThreshold] at h
    split at h
    · cases h
    · rename_i x hx
      split at h
      · rename_i r hr
        split at h
        · rename_i hbounds
          obtain rfl : r = t := Except.ok.inj h
          exact ⟨x, hx, hr, by simpa using hbounds⟩
        · cases h
      · cases h
  · rintro ⟨x, hx, ht, h₀, h₁⟩
    simp [checkThreshold, hx, ht, h₀, h₁]

theorem exists_checkThreshold_iff {v : Value} :
    (∃ t, checkThreshold v = .ok t) ↔ v.IsThreshold := by
  simp only [checkThreshold_eq_ok_iff]
  exact exists_comm

theorem exists_checkLength_iff {v : Value} : (∃ n, checkLength v = .ok n) ↔ v.IsLeastLength := by
  unfold checkLength Value.IsLeastLength
  cases v.toBinary64? with
  | none => simp
  | some x =>
    cases hx : x.ltRat 1 with
    | true => simp [hx]
    | false => cases x <;> simp [hx]

/-- **The least length as it was checked**: a length is too short for it exactly if the value is
above that length. -/
theorem gtRat_of_checkLength {v : Value} {least : Option Nat} (h : checkLength v = .ok least) :
    ∃ x, v.toBinary64? = some x ∧
      ∀ length : Nat, x.gtRat length = true ↔ ∀ n, least = some n → length < n := by
  obtain ⟨x, hx, hlt⟩ := exists_checkLength_iff.mp ⟨least, h⟩
  refine ⟨x, hx, fun length => ?_⟩
  cases x with
  | finite negative magnitude =>
    obtain rfl : some (if negative then -magnitude else magnitude).ceil.toNat = least := by
      simpa [checkLength, hx, hlt] using h
    generalize hr : (if negative then -magnitude else magnitude) = r
    have hceil : length < r.ceil.toNat ↔ (length : Rat) < r := by
      rw [Int.lt_toNat, Rat.lt_ceil_iff, Rat.intCast_natCast]
    simpa [Binary64.gtRat, hr] using hceil.symm
  | infinite negative =>
    obtain rfl : none = least := by simpa [checkLength, hx, hlt] using h
    simpa [Binary64.gtRat, Binary64.ltRat] using hlt
  | nan =>
    obtain rfl : some 0 = least := by simpa [checkLength, hx, hlt] using h
    simp [Binary64.gtRat]

/-- A field is found by no key but its own. -/
theorem Field.key_eq_of_ofKey? {key : Text} {f : Field} (h : Field.ofKey? key = some f) :
    f.key = key := by
  simpa using List.find?_some h

namespace Index

/-- Known keys pass their check, and stand for their fields in order. -/
theorem checkKeys_eq_ok {keys : List Text} (hne : keys ≠ [])
    (hknown : ∀ key ∈ keys, (Field.ofKey? key).isSome) :
    ∃ fields, checkKeys keys = .ok fields ∧ fields.map Field.key = keys := by
  refine ⟨keys.filterMap Field.ofKey?, ?_, ?_⟩
  · have hfilter : (keys.filter fun key => (Field.ofKey? key).isNone) = [] :=
      List.filter_eq_nil_iff.mpr fun key hkey => by
        simpa [Option.isSome_iff_ne_none] using hknown key hkey
    cases keys with
    | nil => exact absurd rfl hne
    | cons key keys => simp only [checkKeys, hfilter]
  · clear hne
    induction keys with
    | nil => rfl
    | cons key keys ih =>
      obtain ⟨hkey, hkeys⟩ := List.forall_mem_cons.mp hknown
      obtain ⟨f, hf⟩ := Option.isSome_iff_exists.mp hkey
      rw [List.filterMap_cons_some hf, List.map_cons, Field.key_eq_of_ofKey? hf, ih hkeys]

/-- **What a search is set up with**: the entries, and what the checks make of the settings. -/
theorem build_eq_ok_iff {entries : List Entry} {keys : List Text} {threshold minMatchLength : Value}
    {index : Index} :
    build entries keys threshold minMatchLength = .ok index ↔
      index.entries = entries ∧ checkKeys keys = .ok index.fields ∧
        checkThreshold threshold = .ok index.threshold ∧
        checkLength minMatchLength = .ok index.leastLength := by
  rw [build]
  constructor
  · intro h
    cases ht : checkThreshold threshold with
    | error e => rw [ht] at h; cases h
    | ok t =>
      cases hn : checkLength minMatchLength with
      | error e => rw [ht, hn] at h; cases h
      | ok n =>
        cases hfields : checkKeys keys with
        | error e => rw [ht, hn, hfields] at h; cases h
        | ok fields =>
          rw [ht, hn, hfields] at h
          obtain rfl := Except.ok.inj h
          exact ⟨rfl, rfl, rfl, rfl⟩
  · obtain ⟨entries, fields, t, n⟩ := index
    rintro ⟨rfl, hfields, ht, hn⟩
    rw [ht, hn, hfields]
    rfl

/-- **A search can be set up** with a threshold, a least length and known keys. -/
theorem exists_build {threshold minMatchLength : Value} {keys : List Text}
    (hthreshold : threshold.IsThreshold) (hlength : minMatchLength.IsLeastLength)
    (hne : keys ≠ []) (hknown : ∀ key ∈ keys, (Field.ofKey? key).isSome) (entries : List Entry) :
    ∃ index, build entries keys threshold minMatchLength = .ok index ∧
      index.entries = entries ∧ index.fields.map Field.key = keys ∧
      checkThreshold threshold = .ok index.threshold ∧
      checkLength minMatchLength = .ok index.leastLength := by
  obtain ⟨t, ht⟩ := exists_checkThreshold_iff.mpr hthreshold
  obtain ⟨n, hn⟩ := exists_checkLength_iff.mpr hlength
  obtain ⟨fields, hfields, hmap⟩ := checkKeys_eq_ok hne hknown
  exact ⟨⟨entries, fields, t, n⟩, build_eq_ok_iff.mpr ⟨rfl, hfields, ht, hn⟩, rfl, hmap, ht, hn⟩

theorem exists_build_defaultKeys {threshold minMatchLength : Value}
    (hthreshold : threshold.IsThreshold) (hlength : minMatchLength.IsLeastLength)
    (entries : List Entry) :
    ∃ index, build entries defaultKeys threshold minMatchLength = .ok index ∧
      index.entries = entries := by
  have hne : defaultKeys ≠ [] := by decide
  obtain ⟨index, hbuild, hentries, -⟩ := exists_build hthreshold hlength hne (by decide) entries
  exact ⟨index, hbuild, hentries⟩

/-- **The default fields** can be searched exactly with a threshold and a least length. -/
theorem exists_build_defaultKeys_iff {threshold minMatchLength : Value} {entries : List Entry} :
    (∃ index, build entries defaultKeys threshold minMatchLength = .ok index) ↔
      threshold.IsThreshold ∧ minMatchLength.IsLeastLength := by
  constructor
  · rintro ⟨index, h⟩
    obtain ⟨-, -, ht, hn⟩ := build_eq_ok_iff.mp h
    exact ⟨exists_checkThreshold_iff.mp ⟨_, ht⟩, exists_checkLength_iff.mp ⟨_, hn⟩⟩
  · rintro ⟨hthreshold, hlength⟩
    obtain ⟨index, h, -⟩ := exists_build_defaultKeys hthreshold hlength entries
    exact ⟨index, h⟩

/-- **A query is too short** exactly if the least length is above its length. -/
theorem isTooShort_iff {index : Index} {v : Value} (h : checkLength v = .ok index.leastLength)
    (query : Text) :
    index.isTooShort query = true ↔
      ∃ x, v.toBinary64? = some x ∧ x.gtRat query.length = true := by
  obtain ⟨x, hx, hgt⟩ := gtRat_of_checkLength h
  have hshort : index.isTooShort query = true ↔
      ∀ n, index.leastLength = some n → query.length < n := by
    unfold isTooShort
    cases index.leastLength <;> simp
  rw [hshort, ← hgt]
  exact ⟨fun hlt => ⟨x, hx, hlt⟩, fun ⟨y, hy, hlt⟩ => Option.some.inj (hx.symm.trans hy) ▸ hlt⟩

end Index

end NativeFinder
