import Mathlib.Data.List.Basic
import NativeFinder.Config.Settings

/-!
# A settings file that is of no use

The settings file is the one layer that anything may stand in. `load_of_findFile?_eq_some` says what
becomes of it: a file that gives no value is passed over, and the settings are those without it. Of
a value, `Value.members` are taken over, which for a sequence are the pairs before the first item
that is none; and the whole load fails exactly if the value `HasWrongKind`. This is so for values of
every kind, and whatever way of reading YAML has given them.

So a file that gives a value which is no table is not always passed over: `null` makes the load
fail, and a sequence that begins with pairs leaves these in the settings although it is rejected
(`exists_load_unsafe`).
-/

namespace NativeFinder

/-! ### What a value gives -/

namespace Value

/-- The member that an item of a sequence is: a pair of a key and a value. -/
def pair? (item : Value) : Option (Key × Value) :=
  match item.items? with
  | some [key, value] => key.toKey?.map fun k => (k, value)
  | _ => none

/-- The **members** that a value gives to a table: those of a table, and of a sequence the pairs
before the first item that is none. -/
def members : Value → List (Key × Value)
  | .table members => members
  | value => ((value.items?.getD []).takeWhile fun item => item.pair?.isSome).filterMap pair?

/-- A value **has the wrong kind** for an update if it is no sequence at all, or if the first of its
items that is no pair is not just too short or too long. -/
def HasWrongKind : Value → Prop
  | .table _ => False
  | value => value.items? = none ∨
    ∃ item, (value.items?.getD []).find? (fun item => item.pair?.isNone) = some item ∧
      ∀ parts, item.items? = some parts → parts.length = 2

theorem eq_toValue_of_toKey? {value : Value} {k : Key} (h : value.toKey? = some k) :
    value = k.toValue := by
  -- only a pair has parts that have to be keys themselves
  fun_induction toKey? value generalizing k with
  | case9 first second ihFirst ihSecond =>
    obtain ⟨a, ha, hpair⟩ := Option.bind_eq_some_iff.mp h
    obtain ⟨b, hb, rfl⟩ := Option.map_eq_some_iff.mp hpair
    rw [Key.toValue, ← ihFirst ha, ← ihSecond hb]
  | case10 | case11 | case12 => cases h
  | _ =>
    obtain rfl := Option.some.inj h
    rfl

/-- The members of a table whose values could all be keys. Values of every kind cannot be compared,
but keys can. -/
def keyMembers? : Value → Option (List (Key × Key))
  | .table members => members.mapM fun member => member.2.toKey?.map fun k => (member.1, k)
  | _ => none

theorem eq_table_of_keyMembers? {value : Value} {keys : List (Key × Key)}
    (h : value.keyMembers? = some keys) :
    value = .table (keys.map fun member => (member.1, member.2.toValue)) := by
  unfold keyMembers? at h
  split at h
  · rename_i members
    congr 1
    induction members generalizing keys with
    | nil =>
      obtain rfl : keys = [] := by simpa [eq_comm] using h
      rfl
    | cons member members ih =>
      rw [List.mapM_cons] at h
      obtain ⟨_, hkey, h⟩ := Option.bind_eq_some_iff.mp h
      obtain ⟨k, hk, rfl⟩ := Option.map_eq_some_iff.mp hkey
      obtain ⟨rest, hrest, h⟩ := Option.bind_eq_some_iff.mp h
      obtain rfl := Option.some.inj h
      rw [List.map_cons, ← ih hrest, ← eq_toValue_of_toKey? hk]
  · cases h

/-- What has been read is known if its members are. -/
theorem eq_ok_table_of_keyMembers? {ε : Type} {result : Except ε Value} {keys : List (Key × Key)}
    (h : result.toOption.bind keyMembers? = some keys) :
    result = .ok (.table (keys.map fun member => (member.1, member.2.toValue))) := by
  cases result with
  | error e => cases h
  | ok value => rw [@eq_table_of_keyMembers? value _ h]

end Value

namespace Table

variable {table : Table} {index : Nat} {item : Value} {items : List Value} {value : Value}

theorem memberOf_of_pair?_eq_some {member : Key × Value} (h : item.pair? = some member) :
    memberOf index item = .ok member := by
  unfold Value.pair? at h
  split at h
  · rename_i key value hitems
    obtain ⟨k, hkey, rfl⟩ := Option.map_eq_some_iff.mp h
    rw [memberOf, hitems]
    simp only [hkey]
  · cases h

/-- An item that is no pair is to blame for its kind, unless its length is wrong. -/
theorem exists_memberOf_of_pair?_eq_none (index : Nat) (h : item.pair? = none) :
    ∃ e, memberOf index item = .error e ∧
      (e.isWrongKind = true ↔ ∀ parts, item.items? = some parts → parts.length = 2) := by
  unfold memberOf
  split
  · rename_i hitems
    exact ⟨_, rfl, by simp [UpdateError.isWrongKind, hitems]⟩
  · rename_i key value hitems
    have hkey : key.toKey? = none := by simpa [Value.pair?, hitems] using h
    rw [hkey]
    exact ⟨_, rfl, by simp [UpdateError.isWrongKind, hitems]⟩
  · rename_i parts hparts hitems
    refine ⟨_, rfl, iff_of_false (by simp [UpdateError.isWrongKind]) fun hlength => ?_⟩
    match parts, hlength parts hitems with
    | [key, value], _ => exact hparts key value rfl

/-- Putting items puts the pairs before the first item that is none. -/
theorem putItems_fst (table : Table) (index : Nat) (items : List Value) :
    (putItems table index items).1 =
      putAll ((items.takeWhile fun item => item.pair?.isSome).filterMap Value.pair?) table := by
  induction items generalizing table index with
  | nil => rfl
  | cons item items ih =>
    cases hpair : item.pair? with
    | none =>
      obtain ⟨e, hmember, -⟩ := exists_memberOf_of_pair?_eq_none index hpair
      simp [putItems, hmember, hpair, putAll]
    | some member =>
      simp [putItems, memberOf_of_pair?_eq_some hpair, hpair, ih, putAll]

/-- Putting items fails at the first item that is no pair. -/
theorem any_putItems_snd_iff (table : Table) (index : Nat) (items : List Value) :
    (putItems table index items).2.any UpdateError.isWrongKind = true ↔
      ∃ item, items.find? (fun item => item.pair?.isNone) = some item ∧
        ∀ parts, item.items? = some parts → parts.length = 2 := by
  induction items generalizing table index with
  | nil => simp [putItems]
  | cons item items ih =>
    cases hpair : item.pair? with
    | none =>
      obtain ⟨e, hmember, hkind⟩ := exists_memberOf_of_pair?_eq_none index hpair
      simp [putItems, hmember, hpair, hkind]
    | some member =>
      simp [putItems, memberOf_of_pair?_eq_some hpair, hpair, ih]

theorem update_fst (table : Table) (value : Value) :
    (table.update value).1 = putAll value.members table := by
  unfold update Value.members
  split
  · rfl
  · split
    · rename_i hitems
      simp [hitems, putAll]
    · rename_i items hitems
      simp [hitems, putItems_fst]

theorem any_update_snd_iff (table : Table) (value : Value) :
    (table.update value).2.any UpdateError.isWrongKind = true ↔ value.HasWrongKind := by
  unfold update Value.HasWrongKind
  split
  · simp
  · split
    · rename_i hitems
      simp [hitems, UpdateError.isWrongKind]
    · rename_i items hitems
      simp [hitems, any_putItems_snd_iff]

end Table

/-! ### The layers -/

namespace Settings

variable {path : FilePath} {around bare : Surroundings} {value : Value}

theorem layFile_of_read_eq_ok (h : ConfigFile.read around.readYaml around.files path = .ok value)
    (settings : Table) :
    (layFile around path settings).settings = Table.putAll value.members settings ∧
      ((layFile around path settings).error.isSome = true ↔ value.HasWrongKind) := by
  rw [← Table.update_fst, ← Table.any_update_snd_iff settings]
  simp only [layFile, h]
  -- an error of the wrong kind escapes, any other one is a warning; the settings stay either way
  rcases settings.update value with ⟨settings, _ | e⟩
  · simp
  · cases hkind : e.isWrongKind <;> simp [hkind]

/-- The environment never fails, and nothing but the variables counts for it. -/
theorem error_layEnvironment (around : Surroundings) (settings : Table) :
    (layEnvironment around settings).error = none := by
  unfold layEnvironment
  refine List.foldlRecOn (motive := fun done : Layered => done.error = none) _ _ rfl ?_
  rintro done hdone ⟨name, key, read⟩ -
  dsimp only
  split
  · exact hdone
  · split <;> exact hdone

theorem layEnvironment_congr (h : bare.environment = around.environment) (settings : Table) :
    layEnvironment bare settings = layEnvironment around settings := by
  simp only [layEnvironment, lookup?, h]

/-- Without overrides, the settings are those of the file with the environment on top, unless the
file makes the load fail. -/
theorem error_load (around : Surroundings) :
    (load around .null).error = (layFound around defaults).error := by
  simp only [load, Layered.andThen]
  cases h : (layFound around defaults).error with
  | some e => simp [h]
  | none => simp [error_layEnvironment, layOverride, Value.isFalsy]

theorem settings_load (h : (layFound around defaults).error = none) :
    (load around .null).settings =
      (layEnvironment around (layFound around defaults).settings).settings := by
  simp [load, Layered.andThen, h, error_layEnvironment, layOverride, Value.isFalsy]

/-- **Which settings files are passed over.** If there is no file, the settings are the defaults
with the environment on top. A file that gives no value is passed over: the load does not fail, and
the settings are those without it. If the file gives a value, the load fails exactly if the value
has the wrong kind; if it does not fail, the members of the value, and nothing else, are put into
the defaults before the environment, so that a value without members is passed over as well. -/
theorem load_of_findFile?_eq_some (hfound : findFile? around = some path)
    (hbare : findFile? bare = none) (henvironment : bare.environment = around.environment) :
    ((load bare .null).error = none ∧
      (load bare .null).settings = (layEnvironment around defaults).settings) ∧
    match ConfigFile.read around.readYaml around.files path with
    | .error _ =>
      (load around .null).error = none ∧ (load around .null).settings = (load bare .null).settings
    | .ok value =>
      ((load around .null).error.isSome = true ↔ value.HasWrongKind) ∧
      (¬ value.HasWrongKind →
        (load around .null).settings =
            (layEnvironment around (Table.putAll value.members defaults)).settings ∧
          (value.members = [] → (load around .null).settings = (load bare .null).settings)) := by
  have hnone : layFound bare defaults = { settings := defaults, logs := [] } := by
    rw [layFound, hbare]
  have hsettings : (load bare .null).settings = (layEnvironment around defaults).settings := by
    rw [settings_load (by rw [hnone]), hnone, layEnvironment_congr henvironment]
  have hsome : (layFound around defaults).settings = (layFile around path defaults).settings ∧
      (layFound around defaults).error = (layFile around path defaults).error := by
    simp [layFound, hfound]
  refine ⟨⟨by rw [error_load, hnone], hsettings⟩, ?_⟩
  split
  · rename_i e hread
    have hlaid : (layFile around path defaults).settings = defaults ∧
        (layFile around path defaults).error = none := by
      simp [layFile, hread]
    have herror := hsome.2.trans hlaid.2
    exact ⟨(error_load around).trans herror,
      by rw [settings_load herror, hsome.1, hlaid.1, hsettings]⟩
  · rename_i value hread
    obtain ⟨hlaid, hkind⟩ := layFile_of_read_eq_ok hread defaults
    refine ⟨by rw [error_load, hsome.2, hkind], fun hnot => ?_⟩
    have herror : (layFound around defaults).error = none := by
      rw [hsome.2, ← Option.not_isSome_iff_eq_none, hkind]
      exact hnot
    rw [settings_load herror, hsome.1, hlaid]
    exact ⟨rfl, fun hmembers => by rw [hmembers, hsettings]; rfl⟩

/-- Surroundings without a settings file, or with one of a content. -/
def surroundingsOf (content? : Option Bytes) : Surroundings :=
  let empty := FileTree.empty ["work"]
  { files := match content? with
      | none => empty
      | some content => empty.add ["work", "jasssearch.json"] (.file content)
    home := ⟨true, ["home"]⟩
    environment := [("JASSSEARCH_LIMIT", "5")] }

theorem findFile?_surroundingsOf (content : Bytes) :
    findFile? (surroundingsOf (some content)) = some ⟨false, ["jasssearch.json"]⟩ := rfl

/-- A table in the file is laid over the defaults, and the environment over the table. -/
theorem load_of_findFile?_eq_some_of_table :
    let around := surroundingsOf (some (Utf8.encode "\x7b\"threshold\": 1\x7d"))
    (load around .null).settings =
      (layEnvironment around (Table.putAll [(.text thresholdKey, .int 1)] defaults)).settings := by
  intro around
  have hread : ConfigFile.read around.readYaml around.files ⟨false, ["jasssearch.json"]⟩ =
      .ok (.table [(.text thresholdKey, .int 1)]) :=
    @Value.eq_ok_table_of_keyMembers? _ _ [(.text thresholdKey, .int 1)] (by decide +kernel)
  have h := @load_of_findFile?_eq_some _ around (surroundingsOf none) (findFile?_surroundingsOf _)
    rfl rfl
  rw [hread] at h
  exact (h.2.2 id).1

/-- A day in the file is no table and no sequence either, so the load fails. -/
example :
    let files := (FileTree.empty ["work"]).add ["work", "jasssearch.yaml"]
      (.file (Utf8.encode "2024-01-01"))
    (load { surroundingsOf none with files } .null).error =
      some (.notSequence "datetime.date") := by
  decide +kernel

/-- **Not every useless file is passed over**: `null` in the file makes the load fail. A sequence
whose second item is no pair is rejected with a warning, and still leaves its first one in the
settings. -/
theorem exists_load_unsafe :
    ((load (surroundingsOf (some (Utf8.encode "null"))) .null).error =
        some (.notSequence "NoneType")) ∧
      let around := surroundingsOf (some (Utf8.encode "[[\"threshold\", 1], [1]]"))
      (load around .null).error = none ∧
      fileWarning (UpdateError.wrongLength 1 1).message ∈ (load around .null).logs ∧
      get (load around .null).settings thresholdKey = .int 1 ∧
      get (load (surroundingsOf none) .null).settings thresholdKey = .float (.ofRat (3 / 10)) := by
  refine ⟨by decide +kernel, by decide +kernel, by decide +kernel, ?_, ?_⟩
  · exact Value.eq_toValue_of_toKey? (k := .int 1) (by decide +kernel)
  · exact Value.eq_toValue_of_toKey? (k := .float (.ofRat (3 / 10))) (by decide +kernel)

end Settings

end NativeFinder
