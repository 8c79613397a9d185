import NativeFinder.Proofs.Config.Layering
import NativeFinder.Proofs.Config.Members
import NativeFinder.Proofs.Text.Lines

/-!
# Which layer settles a setting

With a table in the settings file and a table that overrides, nothing fails, and every key is
settled by itself: the highest layer that says something about it counts. `get?_load` says so for
all keys at once, those that the program knows and any others.

A layer that is a table is put over the ones below member by member (`get?_putAll`). The environment
is put over them variable by variable; a variable that is not set, or that is no number where one is
wanted, says nothing (`environmentValue?`), so that the layer below stays as it is
(`get?_layEnvironment`).
-/

namespace NativeFinder

namespace Settings

variable {around : Surroundings} {path : FilePath} {file override : Table}

/-! ### The environment -/

/-- The addresses that a text **lists**: its pieces between commas in order, without the blanks
around them, and without the pieces that are blank. -/
def Lists (s : Text) (addresses : List Text) : Prop :=
  ∃ pieces, pieces ≠ [] ∧ (∀ piece ∈ pieces, ',' ∉ piece) ∧ Text.join "," pieces = s ∧
    addresses = (pieces.map Text.trim).filter fun piece => piece ≠ []

theorem exists_lists_sourcesOf (s : Text) :
    ∃ addresses, Lists s addresses ∧ sourcesOf s = .list (addresses.map .text) := by
  refine ⟨_, ⟨Text.splitOn ',' s, Text.splitOn_ne_nil _ _, fun _ => Text.not_mem_of_mem_splitOn,
    Text.join_splitOn ',' s, rfl⟩, ?_⟩
  rw [sourcesOf]
  congr 3
  ext piece
  cases piece <;> simp

/-- What the environment says about a setting. A number that cannot be read says nothing. -/
def environmentValue? (around : Surroundings) (key : Key) : Option Value :=
  if key = .text sourcesKey then (lookup? around "JASSSEARCH_SOURCES").map sourcesOf
  else if key = .text displayLimitKey then (lookup? around "JASSSEARCH_LIMIT").bind intOf?
  else if key = .text thresholdKey then (lookup? around "JASSSEARCH_THRESHOLD").bind floatOf?
  else if key = .text timeoutKey then (lookup? around "JASSSEARCH_TIMEOUT").bind floatOf?
  else if key = .text verboseKey then
    (lookup? around "JASSSEARCH_VERBOSE").map fun s => .bool (choiceWords.contains s.lowerAscii)
  else none

/-- A variable with its setting and its reader. -/
abbrev Variable := Text × Text × (Text → Option Value)

/-- What a variable says about its setting. -/
def Variable.value? (around : Surroundings) (v : Variable) : Option Value :=
  (lookup? around v.1).bind v.2.2

/-- Lays one variable over settings. -/
def layVariable (around : Surroundings) (done : Layered) (v : Variable) : Layered :=
  match lookup? around v.1 with
  | none => done
  | some s =>
    match v.2.2 s with
    | some value => { done with settings := done.settings.put (.text v.2.1) value }
    | none =>
      { done with
        logs := done.logs ++ [Log.warning ("Invalid " ++ v.1 ++ " environment variable")] }

theorem layEnvironment_eq_foldl (around : Surroundings) (settings : Table) :
    layEnvironment around settings =
      layeredVariables.foldl (layVariable around) { settings, logs := [] } := rfl

/-- A variable replaces what is under its own key, if it says something. -/
theorem get?_layVariable (around : Surroundings) (done : Layered) (v : Variable) (key : Key) :
    (layVariable around done v).settings.get? key =
      if key = .text v.2.1 then (v.value? around).or (done.settings.get? key)
      else done.settings.get? key := by
  unfold layVariable Variable.value?
  cases lookup? around v.1 with
  | none => simp
  | some s =>
    cases hread : v.2.2 s with
    | none => simp [hread]
    | some value => simp [hread, Table.get?_put, Key.text_same_iff]

theorem isDistinct_layVariable {done : Layered} (h : done.settings.IsDistinct) (v : Variable) :
    (layVariable around done v).settings.IsDistinct := by
  unfold layVariable
  split
  · exact h
  · split
    · exact h.put _ _
    · exact h

/-- **Variables with different settings** that are laid over settings: each settles its own key. -/
theorem get?_foldl_layVariable {vs : List Variable}
    (h : (vs.map fun v => v.2.1).Nodup) (done : Layered) (key : Key) :
    (vs.foldl (layVariable around) done).settings.get? key =
      ((vs.find? fun v => key = .text v.2.1).bind (Variable.value? around)).or
        (done.settings.get? key) := by
  induction vs generalizing done with
  | nil => rfl
  | cons v vs ih =>
    obtain ⟨hv, hvs⟩ := List.nodup_cons.mp h
    rw [List.foldl_cons, ih hvs, get?_layVariable, List.find?_cons]
    by_cases hkey : key = .text v.2.1
    · -- no later variable has the same setting
      subst hkey
      have hnone : vs.find? (fun w => Key.text v.2.1 = .text w.2.1) = none := by
        rw [List.find?_eq_none]
        intro w hw heq
        refine hv (List.mem_map.mpr ⟨w, hw, ?_⟩)
        simpa [eq_comm] using heq
      simp only [decide_true, if_true, hnone, Option.bind_none, Option.none_or, Option.bind_some]
    · simp [hkey]

theorem isDistinct_layEnvironment {settings : Table} (h : settings.IsDistinct) :
    (layEnvironment around settings).settings.IsDistinct := by
  rw [layEnvironment_eq_foldl]
  exact List.foldlRecOn (motive := fun done : Layered => done.settings.IsDistinct) _ _ h
    fun _ hdone v _ => isDistinct_layVariable hdone v

theorem environmentValue?_eq (around : Surroundings) (key : Key) :
    environmentValue? around key =
      (layeredVariables.find? fun v => key = .text v.2.1).bind (Variable.value? around) := by
  unfold environmentValue?
  split_ifs with h₁ h₂ h₃ h₄ h₅
  · subst h₁
    exact Option.map_eq_bind
  · subst h₂
    rfl
  · subst h₃
    rfl
  · subst h₄
    rfl
  · subst h₅
    exact Option.map_eq_bind
  · simp [layeredVariables, h₁, h₂, h₃, h₄, h₅]

/-- **What the environment says counts**, and elsewhere the layer below stays as it is. -/
theorem get?_layEnvironment (around : Surroundings) (settings : Table) (key : Key) :
    (layEnvironment around settings).settings.get? key =
      (environmentValue? around key).or (settings.get? key) := by
  rw [layEnvironment_eq_foldl, get?_foldl_layVariable (by decide), environmentValue?_eq]

/-- The environment says nothing about a setting that has no default. -/
theorem isSome_get?_defaults {key : Key} (h : (environmentValue? around key).isSome) :
    (Table.get? key defaults).isSome := by
  unfold environmentValue? at h
  split_ifs at h
  case neg => cases h
  all_goals subst key; rfl

/-! ### All layers -/

/-- A table that overrides is put over the settings; an empty one changes nothing. -/
theorem layOverride_table (override settings : Table) :
    (layOverride (.table override) settings).settings = Table.putAll override settings ∧
      (layOverride (.table override) settings).error = none := by
  cases override with
  | nil => exact ⟨rfl, rfl⟩
  | cons member override => exact ⟨rfl, rfl⟩

/-- With a table in the file and a table that overrides, each layer is put over the ones below. -/
theorem load_eq_putAll (hfound : findFile? around = some path)
    (hread : ConfigFile.read around.readYaml around.files path = .ok (.table file))
    (override : Table) :
    (load around (.table override)).error = none ∧
      (load around (.table override)).settings =
        Table.putAll override
          (layEnvironment around (Table.putAll file defaults)).settings := by
  obtain ⟨hfile, hkind⟩ := layFile_of_read_eq_ok hread defaults
  have hbelow : (layFound around defaults).settings = Table.putAll file defaults := by
    rw [layFound, hfound]
    exact hfile
  have hnone : (layFound around defaults).error = none := by
    rw [← Option.not_isSome_iff_eq_none]
    simpa [layFound, hfound] using mt hkind.mp id
  simp only [load, Layered.andThen, hnone, error_layEnvironment, hbelow]
  exact (layOverride_table override _).symm

/-- **Every key is settled by the highest layer that says something about it.** -/
theorem get?_load (hfound : findFile? around = some path)
    (hread : ConfigFile.read around.readYaml around.files path = .ok (.table file))
    (hoverride : override.IsDistinct) :
    let done := load around (.table override)
    done.error = none ∧ done.settings.IsDistinct ∧
      (∀ key, (done.settings.get? key).isSome ↔
        (Table.get? key defaults).isSome ∨ (file.get? key).isSome ∨ (override.get? key).isSome) ∧
      (∀ key, done.settings.get? key =
        (override.get? key).or ((environmentValue? around key).or
          ((file.get? key).or (Table.get? key defaults)))) ∧
      ∀ s, lookup? around "JASSSEARCH_SOURCES" = some s →
        ∃ addresses, Lists s addresses ∧
          environmentValue? around (.text sourcesKey) = some (.list (addresses.map .text)) := by
  intro done
  obtain ⟨herror, hsettings⟩ := load_eq_putAll hfound hread override
  have hfile : file.IsDistinct := ConfigFile.isDistinct_of_read hread
  have hvalue : ∀ key, done.settings.get? key =
      (override.get? key).or ((environmentValue? around key).or
        ((file.get? key).or (Table.get? key defaults))) := by
    intro key
    rw [hsettings, Table.get?_putAll hoverride, get?_layEnvironment, Table.get?_putAll hfile]
  refine ⟨herror, ?_, fun key => ?_, hvalue, fun s hs => ?_⟩
  · have hdefaults : defaults.IsDistinct := by decide
    rw [hsettings]
    exact (isDistinct_layEnvironment (hdefaults.putAll file)).putAll override
  · have henvironment : (environmentValue? around key).isSome → (Table.get? key defaults).isSome :=
      isSome_get?_defaults
    rw [hvalue]
    simp only [Option.isSome_or, Bool.or_eq_true]
    tauto
  · obtain ⟨addresses, hlists, heq⟩ := exists_lists_sourcesOf s
    exact ⟨addresses, hlists, by rw [environmentValue?, if_pos rfl, hs, Option.map_some, heq]⟩

/-- What `get?_load_of_layers` finds around it: a file with the members `display_limit` and
`colour`, a variable that is no number, and a list of addresses with blank pieces. -/
def surroundingsOfLayers : Surroundings :=
  { surroundingsOf (some (Utf8.encode "\x7b\"display_limit\": 7, \"colour\": true\x7d")) with
    environment := [("JASSSEARCH_LIMIT", "lots"), ("JASSSEARCH_SOURCES", " a ,, b"),
      ("JASSSEARCH_VERBOSE", "Yes")] }

/-- A variable that is no number leaves the setting of the file, one that can be read replaces the
default, and a key that the program does not know goes through all layers. -/
theorem get?_load_of_layers :
    let done := load surroundingsOfLayers
      (.table [(.text verboseKey, .bool false), (.text "colour", .null)])
    done.settings.get? (.text displayLimitKey) = some (.int 7) ∧
      done.settings.get? (.text sourcesKey) = some (.list [.text "a", .text "b"]) ∧
      done.settings.get? (.text verboseKey) = some (.bool false) ∧
      done.settings.get? (.text "colour") = some .null ∧
      done.settings.get? (.text minMatchLengthKey) = some (.int 2) := by
  have hread : ConfigFile.read surroundingsOfLayers.readYaml surroundingsOfLayers.files
      ⟨false, ["jasssearch.json"]⟩ =
        .ok (.table [(.text displayLimitKey, .int 7), (.text "colour", .bool true)]) :=
    @Value.eq_ok_table_of_keyMembers? _ _
      [(.text displayLimitKey, .int 7), (.text "colour", .bool true)] (by decide +kernel)
  have hfound : findFile? surroundingsOfLayers = some ⟨false, ["jasssearch.json"]⟩ :=
    findFile?_surroundingsOf _
  have hoverride : Table.IsDistinct [(.text verboseKey, .bool false), (.text "colour", .null)] := by
    decide
  obtain ⟨-, -, -, hvalue, -⟩ := get?_load hfound hread hoverride
  refine ⟨?_, ?_, ?_, ?_, ?_⟩ <;> rw [hvalue] <;> rfl

end Settings

end NativeFinder
