import Mathlib.Data.List.Basic
import NativeFinder.Config.File
import NativeFinder.Proofs.Success

/-!
# The members of a table

A table keeps one member for each key. Two keys name the same member exactly if they have the same
`meaning` (`same_iff`). So `same` is an equivalence, and what
is under a key of a table is settled by the last member that was put under it (`get?_put`,
`get?_putAll`).

That a table has no two members under the same key is `Table.IsDistinct`. Putting keeps it, and
every table that is read from a settings file has it (`isDistinct_of_read`), since its members are
put into it one after the other, whatever way of reading has found them.
-/

namespace NativeFinder

/-! ### Keys -/

namespace Key

variable {a b c : Key}

theorem same_iff : a.same b = true ↔ a.meaning = b.meaning := by
  rw [same, beq_iff_eq]

theorem same_comm (a b : Key) : a.same b = b.same a := by
  rw [Bool.eq_iff_iff, same_iff, same_iff, eq_comm]

/-- Keys that mean the same cannot be told apart. -/
theorem same_congr (h : a.same b = true) (c : Key) : a.same c = b.same c := by
  rw [Bool.eq_iff_iff, same_iff, same_iff, same_iff.mp h]

/-- A text is the same key as itself only. -/
theorem text_same_iff {s : Text} : (text s).same a = true ↔ a = text s := by
  rw [same_iff, eq_comm]
  fun_cases meaning a <;> simp [meaning]

end Key

namespace Table

variable {table members : Table} {key key' : Key} {value : Value}

/-! ### Looking up -/

@[simp]
theorem get?_nil (key : Key) : Table.get? key [] = none := rfl

theorem get?_cons (member : Key × Value) (table : Table) (key : Key) :
    Table.get? key (member :: table) =
      if member.1.same key then some member.2 else Table.get? key table := by
  rw [Table.get?, List.find?_cons]
  cases member.1.same key <;> rfl

theorem get?_eq_none_iff : table.get? key = none ↔ ∀ member ∈ table, member.1.same key = false := by
  simp [Table.get?]

/-- **What was put under a key** is there, and nothing changes under the other keys. -/
theorem get?_put (key : Key) (value : Value) (table : Table) (key' : Key) :
    (table.put key value).get? key' = if key.same key' then some value else table.get? key' := by
  induction table with
  | nil => exact get?_cons (key, value) [] key'
  | cons member table ih =>
    rw [Table.put]
    split
    · -- the member that is replaced has the same key
      rename_i hsame
      rw [get?_cons, get?_cons, Key.same_congr hsame key']
      split <;> rfl
    · -- a member under another key stays, so it does not hide the new one
      rename_i hother
      rw [get?_cons, get?_cons, ih]
      split
      · rename_i hmember
        have hnot : key.same key' = false := by
          rw [Key.same_comm, ← Key.same_congr hmember]
          simpa using hother
        simp [hnot]
      · rfl

/-! ### Distinct keys -/

/-- A table has **distinct** keys if no two of its members have the same one. -/
def IsDistinct (table : Table) : Prop :=
  table.Pairwise fun a b => a.1.same b.1 = false

instance (table : Table) : Decidable table.IsDistinct :=
  inferInstanceAs (Decidable (table.Pairwise fun a b => a.1.same b.1 = false))

theorem isDistinct_nil : IsDistinct [] := List.Pairwise.nil

/-- What holds of the keys of a table and of a key that is put into it holds of all keys then. -/
theorem forall_mem_put {P : Key → Prop} (htable : ∀ member ∈ table, P member.1) (hkey : P key) :
    ∀ member ∈ table.put key value, P member.1 := by
  induction table with
  | nil => simpa [Table.put] using hkey
  | cons member table ih =>
    obtain ⟨hmember, htable⟩ := List.forall_mem_cons.mp htable
    rw [Table.put]
    split
    · exact List.forall_mem_cons.mpr ⟨hmember, htable⟩
    · exact List.forall_mem_cons.mpr ⟨hmember, ih htable⟩

theorem IsDistinct.put (h : table.IsDistinct) (key : Key) (value : Value) :
    (table.put key value).IsDistinct := by
  induction table with
  | nil => exact List.pairwise_singleton _ _
  | cons member table ih =>
    obtain ⟨hmember, htable⟩ := List.pairwise_cons.mp h
    rw [Table.put]
    split
    · exact List.pairwise_cons.mpr ⟨hmember, htable⟩
    · rename_i hother
      have hother : member.1.same key = false := by simpa using hother
      exact List.pairwise_cons.mpr
        ⟨forall_mem_put (P := fun k => member.1.same k = false) hmember hother, ih htable⟩

theorem putAll_cons (member : Key × Value) (members table : Table) :
    Table.putAll (member :: members) table =
      Table.putAll members (table.put member.1 member.2) := rfl

theorem IsDistinct.putAll (h : table.IsDistinct) (members : Table) :
    (Table.putAll members table).IsDistinct := by
  induction members generalizing table with
  | nil => exact h
  | cons member members ih => exact ih (h.put member.1 member.2)

theorem isDistinct_ofMembers (members : Table) : (ofMembers members).IsDistinct :=
  isDistinct_nil.putAll members

/-- A member under a new key comes last. -/
theorem put_eq_append (h : ∀ member ∈ table, member.1.same key = false) (value : Value) :
    table.put key value = table ++ [(key, value)] := by
  induction table with
  | nil => rfl
  | cons member table ih =>
    obtain ⟨hmember, htable⟩ := List.forall_mem_cons.mp h
    rw [Table.put, hmember, if_neg Bool.false_ne_true, ih htable, List.cons_append]

theorem putAll_eq_append (h : IsDistinct (table ++ members)) :
    Table.putAll members table = table ++ members := by
  induction members generalizing table with
  | nil => exact (List.append_nil table).symm
  | cons member members ih =>
    have hnew : ∀ other ∈ table, other.1.same member.1 = false := fun other hother =>
      (List.pairwise_append.mp h).2.2 other hother member (List.mem_cons_self ..)
    rw [List.append_cons] at h ⊢
    rw [putAll_cons, put_eq_append hnew, ih h]

/-- A table is made of its members. -/
theorem ofMembers_eq_self (h : members.IsDistinct) : ofMembers members = members :=
  putAll_eq_append h

/-- **Members with distinct keys that are put into a table** are in it, and under the other keys it
is as before. -/
theorem get?_putAll (h : members.IsDistinct) (table : Table) (key : Key) :
    (Table.putAll members table).get? key = (members.get? key).or (table.get? key) := by
  induction members generalizing table with
  | nil => rfl
  | cons member members ih =>
    obtain ⟨hmember, hmembers⟩ := List.pairwise_cons.mp h
    rw [putAll_cons, ih hmembers, get?_put, get?_cons]
    split
    · -- no later member replaces this one
      rename_i hkey
      have hnone : Table.get? key members = none := get?_eq_none_iff.mpr fun other hother => by
        rw [Key.same_comm, ← Key.same_congr hkey]
        exact hmember other hother
      rw [hnone]
      rfl
    · rfl

end Table

/-! ### Tables that are read -/

/-- A value is **orderly** if it is no table, or a table with distinct keys. -/
def Value.IsOrderly : Value → Prop
  | .table members => Table.IsDistinct members
  | _ => True

namespace Json

variable {s rest : Text} {fuel : Nat} {value : Value}

theorem isOrderly_of_readWord? (h : readWord? s = some (value, rest)) : value.IsOrderly := by
  obtain ⟨⟨word, v⟩, hmem, hread⟩ := List.exists_of_findSome?_eq_some h
  obtain ⟨_, -, hpair⟩ := Option.map_eq_some_iff.mp hread
  obtain ⟨rfl, -⟩ := Prod.mk.inj hpair
  have hwords : ∀ found ∈ words, found.2.IsOrderly := by simp [words, Value.IsOrderly]
  exact hwords _ hmem

theorem isOrderly_of_readNumber {negative : Bool} (h : readNumber negative s = .ok (value, rest)) :
    value.IsOrderly := by
  simp only [readNumber] at h
  repeat' split at h
  all_goals cases h
  all_goals trivial

/-- The members that are read are put into a table one after the other. -/
theorem isOrderly_of_readValue (h : readValue fuel s = .ok (value, rest)) : value.IsOrderly := by
  match fuel, s with
  | 0, _ => cases h
  | _ + 1, [] => cases h
  | fuel + 1, c :: s =>
    rw [readValue] at h
    split at h
    · rename_i found hword
      obtain rfl := Except.ok.inj h
      exact isOrderly_of_readWord? hword
    split at h
    · split at h
      · cases h
        trivial
      · cases h
    split at h
    · split at h
      · cases h
        trivial
      · obtain ⟨⟨items, _⟩, -, hitems⟩ := exists_of_bind_eq_ok h
        cases hitems
        trivial
    split at h
    · split at h
      · cases h
        exact Table.isDistinct_nil
      · obtain ⟨⟨members, _⟩, -, hmembers⟩ := exists_of_bind_eq_ok h
        cases hmembers
        exact Table.isDistinct_ofMembers members
    split at h
    · exact isOrderly_of_readNumber h
    · exact isOrderly_of_readNumber h

theorem isOrderly_of_parse (h : parse s = .ok value) : value.IsOrderly := by
  rw [parse] at h
  obtain ⟨⟨v, rest⟩, hread, hend⟩ := exists_of_bind_eq_ok h
  dsimp only at hend
  split at hend
  · cases hend
    exact isOrderly_of_readValue hread
  · cases hend

end Json

/-- The members of a document are put into a table one after the other. -/
theorem Value.isOrderly_ofDocument (v : Value) : v.ofDocument.IsOrderly := by
  unfold ofDocument
  split
  · exact Table.isDistinct_nil
  · split
    · exact Table.isDistinct_ofMembers _
    · rename_i hnot
      cases v with
      | table members => exact absurd rfl (hnot members)
      | _ => trivial

/-- Whatever the format is, what is read is orderly. -/
theorem ConfigFormat.isOrderly_of_parse {readYaml : YamlReader} {format : ConfigFormat} {s : Text}
    {value : Value} (h : format.parse readYaml s = .ok value) : value.IsOrderly := by
  cases format with
  | json => exact Json.isOrderly_of_parse h
  | yaml =>
    obtain ⟨v, -, rfl⟩ := exists_of_map_eq_ok h
    exact v.isOrderly_ofDocument

/-- **A table in a settings file has distinct keys.** -/
theorem ConfigFile.isDistinct_of_read {readYaml : YamlReader} {files : FileTree} {path : FilePath}
    {table : Table} (h : ConfigFile.read readYaml files path = .ok (.table table)) :
    table.IsDistinct := by
  unfold ConfigFile.read at h
  split at h
  · cases h
  split at h
  · cases h
  · obtain ⟨content, -, h⟩ := exists_of_bind_eq_ok h
    obtain ⟨text, -, h⟩ := exists_of_bind_eq_ok h
    exact ConfigFormat.isOrderly_of_parse (eq_ok_of_mapError_eq_ok h)

end NativeFinder
