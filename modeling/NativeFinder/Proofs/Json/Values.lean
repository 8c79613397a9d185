import NativeFinder.Proofs.Config.Members
import NativeFinder.Proofs.Json.Numbers
import NativeFinder.Proofs.Json.Strings

/-!
# What is written as JSON is read back

`parse_render` says that reading a rendered value gives the value, whatever its size and depth. The
values of which this holds are those of `IsCarried`: integers that are not too long, numbers of the
format, and tables whose keys are different texts.

The proof follows the value. A list and a table are read item by item and member by member; the line
breaks and the spaces that the layout puts before each of them are skipped.
-/

namespace NativeFinder

open Text

namespace Json

variable {value : Value} {s t rest key : Text} {fuel depth : Nat}

/-- The values that JSON **carries**. -/
inductive IsCarried : Value → Prop
  | null : IsCarried .null
  | bool (b : Bool) : IsCarried (.bool b)
  | int {n : Int} (h : (ofNat n.natAbs).length ≤ Numeral.digitLimit) : IsCarried (.int n)
  | float {x : Binary64} (h : x.InFormat) : IsCarried (.float x)
  | text (s : Text) : IsCarried (.text s)
  | list {items : List Value} (h : ∀ item ∈ items, IsCarried item) : IsCarried (.list items)
  | table {members : Table} (hkeys : ∀ member ∈ members, ∃ key, member.1 = .text key)
      (hdistinct : members.IsDistinct) (hvalues : ∀ member ∈ members, IsCarried member.2) :
      IsCarried (.table members)

/-! ### Spaces -/

theorem skipSpaces_newline_append (depth : Nat) (s : Text) :
    skipSpaces (newline depth ++ s) = skipSpaces s := by
  refine List.dropWhile_append_of_pos fun c hc => ?_
  rcases List.mem_cons.mp hc with rfl | hspace
  · rfl
  · rw [List.eq_of_mem_replicate hspace]
    rfl

theorem skipSpaces_of_stops (h : Stops isSpace s) : skipSpaces s = s := by
  cases s with
  | nil => rfl
  | cons c s => exact List.dropWhile_cons_of_neg (by simp [stops_cons.mp h])

theorem stops_newline (depth : Nat) (s : Text) : Stops isNumberPart (newline depth ++ s) :=
  stops_cons.mpr rfl

/-! ### The first character of a value -/

/-- What begins a value is no space and closes no list. -/
def Begins (s : Text) : Prop := ∃ c t, s = c :: t ∧ isSpace c = false ∧ c ≠ ']'

theorem Begins.append (h : Begins s) (t : Text) : Begins (s ++ t) := by
  obtain ⟨c, s, rfl, hspace, hclose⟩ := h
  exact ⟨c, s ++ t, rfl, hspace, hclose⟩

theorem Begins.skipSpaces (h : Begins s) : Json.skipSpaces s = s := by
  obtain ⟨c, s, rfl, hspace, -⟩ := h
  exact skipSpaces_of_stops (stops_cons.mpr hspace)

theorem IsNumber.begins (h : IsNumber s value) : Begins s := by
  obtain ⟨negative, c, t, rfl, hc, -⟩ := h
  cases negative with
  | true => exact ⟨'-', c :: t, rfl, rfl, by decide⟩
  | false =>
    have hne (d : Char) (hd : d.isDigit = false) : c ≠ d := ne_of_isDigit hc hd
    refine ⟨c, t, rfl, ?_, hne ']' rfl⟩
    simp [isSpace, hne ' ' rfl, hne '\t' rfl, hne '\n' rfl, hne '\r' rfl]

theorem begins_renderAt (h : IsCarried value) (depth : Nat) : Begins (renderAt depth value) := by
  cases h with
  | null => exact ⟨'n', _, rfl, rfl, by decide⟩
  | bool b =>
    cases b with
    | false => exact ⟨'f', _, rfl, rfl, by decide⟩
    | true => exact ⟨'t', _, rfl, rfl, by decide⟩
  | int h => exact (isNumber_ofInt h).begins
  | @float x h =>
    cases x with
    | nan => exact ⟨'N', _, rfl, rfl, by decide⟩
    | infinite negative =>
      cases negative with
      | false => exact ⟨'I', _, rfl, rfl, by decide⟩
      | true => exact ⟨'-', _, rfl, rfl, by decide⟩
    | finite negative x => exact (isNumber_ofBinary64 h).begins
  | text s => exact ⟨'"', _, rfl, rfl, by decide⟩
  | @list items h =>
    cases items with
    | nil => exact ⟨'[', _, rfl, rfl, by decide⟩
    | cons item items => exact ⟨'[', _, rfl, rfl, by decide⟩
  | @table members =>
    cases members with
    | nil => exact ⟨'\x7b', _, rfl, rfl, by decide⟩
    | cons member members => exact ⟨'\x7b', _, rfl, rfl, by decide⟩

/-! ### Reading back -/

/-- A value **reads back** if its written form, at any depth and with anything behind it that does
not go on with a number, is read as the value. -/
def ReadsBack (value : Value) : Prop :=
  ∀ depth fuel rest, Stops isNumberPart rest → (renderAt depth value).length ≤ fuel →
    readValue fuel (renderAt depth value ++ rest) = .ok (value, rest)

section Lists

variable {item : Value} {items : List Value}

/-- What stands behind an item of a list: nothing, or a comma and the other items. -/
def itemsTail (depth : Nat) : List Value → Text
  | [] => []
  | item :: items => ',' :: renderItems depth (item :: items)

theorem renderItems_cons (depth : Nat) (item : Value) (items : List Value) :
    renderItems depth (item :: items) =
      newline depth ++ (renderAt depth item ++ itemsTail depth items) := by
  cases items with
  | nil => simp [renderItems, itemsTail]
  | cons next items => simp [renderItems, itemsTail]

theorem readItems_last (hitem : readValue fuel s = .ok (item, t))
    (hclose : skipSpaces t = ']' :: rest) : readItems (fuel + 1) s = .ok ([item], rest) := by
  simp only [readItems, hitem, bind, Except.bind, hclose]

theorem readItems_next {next : Text} (hitem : readValue fuel s = .ok (item, t))
    (hcomma : skipSpaces t = ',' :: next)
    (hitems : readItems fuel (skipSpaces next) = .ok (items, rest)) :
    readItems (fuel + 1) s = .ok (item :: items, rest) := by
  simp only [readItems, hitem, bind, Except.bind, hcomma, hitems]

theorem skipSpaces_renderItems (h : Begins (renderAt depth item)) (items : List Value)
    (rest : Text) :
    skipSpaces (renderItems depth (item :: items) ++ rest) =
      renderAt depth item ++ (itemsTail depth items ++ rest) := by
  rw [renderItems_cons, List.append_assoc, skipSpaces_newline_append, List.append_assoc,
    (h.append _).skipSpaces]

theorem length_lt_length_renderItems (depth : Nat) (item : Value) (items : List Value) :
    (renderAt depth item).length + (itemsTail depth items).length <
      (renderItems depth (item :: items)).length := by
  simp only [renderItems_cons, newline, List.length_append, List.length_cons]
  omega

/-- **The items of a list are read** up to its bracket, each without the spaces before it. -/
theorem readItems_renderItems (h : ∀ v ∈ item :: items, Begins (renderAt depth v) ∧ ReadsBack v)
    (outer : Nat) (rest : Text) (hfuel : (renderItems depth (item :: items)).length ≤ fuel) :
    readItems fuel (skipSpaces
      (renderItems depth (item :: items) ++ (newline outer ++ ']' :: rest))) =
        .ok (item :: items, rest) := by
  -- every item takes at least its line break off the bound
  induction items generalizing item fuel with
  | nil =>
    obtain ⟨hbegins, hback⟩ := h item (List.mem_cons_self ..)
    have hlength := length_lt_length_renderItems depth item []
    obtain ⟨fuel, rfl⟩ : ∃ k, fuel = k + 1 := Nat.exists_eq_add_one.mpr (by omega)
    rw [skipSpaces_renderItems hbegins]
    refine readItems_last (hback depth fuel _ (stops_newline outer (']' :: rest)) (by omega)) ?_
    rw [itemsTail, List.nil_append, skipSpaces_newline_append]
    exact skipSpaces_of_stops (stops_cons.mpr rfl)
  | cons next items ih =>
    obtain ⟨hbegins, hback⟩ := h item (List.mem_cons_self ..)
    have hlength := length_lt_length_renderItems depth item (next :: items)
    obtain ⟨fuel, rfl⟩ : ∃ k, fuel = k + 1 := Nat.exists_eq_add_one.mpr (by omega)
    rw [skipSpaces_renderItems hbegins]
    refine readItems_next (hback depth fuel _ (stops_cons.mpr rfl) (by omega))
      (skipSpaces_of_stops (stops_cons.mpr rfl))
      (ih (fun v hv => h v (List.mem_cons_of_mem _ hv)) ?_)
    simp only [itemsTail, List.length_cons] at hlength
    omega

end Lists

section Tables

variable {members : Table}

/-- What stands behind a member of a table: nothing, or a comma and the other members. -/
def membersTail (depth : Nat) : Table → Text
  | [] => []
  | member :: members => ',' :: renderMembers depth (member :: members)

theorem renderMembers_cons (depth : Nat) (key : Text) (value : Value) (members : Table) :
    renderMembers depth ((.text key, value) :: members) =
      newline depth ++ (escape key ++ (':' :: ' ' :: renderAt depth value ++
        membersTail depth members)) := by
  cases members with
  | nil => simp [renderMembers, membersTail, keyText]
  | cons next members => simp [renderMembers, membersTail, keyText]

theorem readMembers_last (hvalue : readValue fuel (skipSpaces s) = .ok (value, t))
    (hclose : skipSpaces t = '\x7d' :: rest) :
    readMembers (fuel + 1) (escape key ++ ':' :: s) = .ok ([(.text key, value)], rest) := by
  have hcolon : skipSpaces (':' :: s) = ':' :: s := skipSpaces_of_stops (stops_cons.mpr rfl)
  rw [escape_append, readMembers, readChars?_escape]
  simp only [hcolon, hvalue, bind, Except.bind, hclose]

theorem readMembers_next {next : Text} (hvalue : readValue fuel (skipSpaces s) = .ok (value, t))
    (hcomma : skipSpaces t = ',' :: next)
    (hmembers : readMembers fuel (skipSpaces next) = .ok (members, rest)) :
    readMembers (fuel + 1) (escape key ++ ':' :: s) =
      .ok ((.text key, value) :: members, rest) := by
  have hcolon : skipSpaces (':' :: s) = ':' :: s := skipSpaces_of_stops (stops_cons.mpr rfl)
  rw [escape_append, readMembers, readChars?_escape]
  simp only [hcolon, hvalue, bind, Except.bind, hcomma, hmembers]

theorem skipSpaces_renderMembers (depth : Nat) (key : Text) (value : Value) (members : Table)
    (rest : Text) :
    skipSpaces (renderMembers depth ((.text key, value) :: members) ++ rest) =
      escape key ++ ':' :: ' ' ::
        (renderAt depth value ++ (membersTail depth members ++ rest)) := by
  have hquote (t : Text) : skipSpaces (escape key ++ t) = escape key ++ t :=
    skipSpaces_of_stops (stops_cons.mpr rfl)
  rw [renderMembers_cons, List.append_assoc, skipSpaces_newline_append, List.append_assoc, hquote]
  simp

theorem length_lt_length_renderMembers (depth : Nat) (key : Text) (value : Value)
    (members : Table) :
    (renderAt depth value).length + (membersTail depth members).length <
      (renderMembers depth ((.text key, value) :: members)).length := by
  simp only [renderMembers_cons, newline, List.length_append, List.length_cons]
  omega

/-- **The members of a table are read** up to its brace, each without the spaces before it. -/
theorem readMembers_renderMembers
    (h : ∀ member ∈ (.text key, value) :: members, (∃ key, member.1 = .text key) ∧
      Begins (renderAt depth member.2) ∧ ReadsBack member.2)
    (outer : Nat) (rest : Text)
    (hfuel : (renderMembers depth ((.text key, value) :: members)).length ≤ fuel) :
    readMembers fuel (skipSpaces
      (renderMembers depth ((.text key, value) :: members) ++ (newline outer ++ '\x7d' :: rest))) =
        .ok ((.text key, value) :: members, rest) := by
  have hspace (s : Text) : skipSpaces (' ' :: s) = skipSpaces s := rfl
  induction members generalizing key value fuel with
  | nil =>
    obtain ⟨-, (hbegins : Begins (renderAt depth value)), (hback : ReadsBack value)⟩ :=
      h _ (List.mem_cons_self ..)
    have hlength := length_lt_length_renderMembers depth key value []
    obtain ⟨fuel, rfl⟩ : ∃ k, fuel = k + 1 := Nat.exists_eq_add_one.mpr (by omega)
    rw [skipSpaces_renderMembers]
    refine readMembers_last (t := newline outer ++ '\x7d' :: rest) ?_ ?_
    · rw [hspace, (hbegins.append _).skipSpaces]
      exact hback depth fuel _ (stops_newline outer ('\x7d' :: rest)) (by omega)
    · rw [skipSpaces_newline_append]
      exact skipSpaces_of_stops (stops_cons.mpr rfl)
  | cons next members ih =>
    obtain ⟨-, (hbegins : Begins (renderAt depth value)), (hback : ReadsBack value)⟩ :=
      h _ (List.mem_cons_self ..)
    obtain ⟨nextKey, nextValue⟩ := next
    -- the next key is a text too, so that the members behind this one are read in the same way
    obtain ⟨⟨nextText, rfl⟩, -⟩ := h (nextKey, nextValue) (by simp)
    have hlength := length_lt_length_renderMembers depth key value
      ((.text nextText, nextValue) :: members)
    obtain ⟨fuel, rfl⟩ : ∃ k, fuel = k + 1 := Nat.exists_eq_add_one.mpr (by omega)
    simp only [membersTail, List.length_cons] at hlength
    rw [skipSpaces_renderMembers]
    refine readMembers_next ?_ (skipSpaces_of_stops (stops_cons.mpr rfl))
      (ih (fun member hmember => h member (List.mem_cons_of_mem _ hmember)) (by omega))
    rw [hspace, (hbegins.append _).skipSpaces]
    exact hback depth fuel _ (stops_cons.mpr rfl) (by omega)

end Tables

/-! ### Values -/

theorem readValue_escape (s rest : Text) (fuel : Nat) :
    readValue (fuel + 1) (escape s ++ rest) = .ok (.text s, rest) := by
  have hword (t : Text) : readWord? ('"' :: t) = none := rfl
  rw [escape_append, readValue, hword]
  simp only [if_true, readChars?_escape]

theorem readValue_items {c : Char} {items : List Value} (hskip : skipSpaces s = c :: t)
    (hc : c ≠ ']') (hitems : readItems fuel (skipSpaces s) = .ok (items, rest)) :
    readValue (fuel + 1) ('[' :: s) = .ok (.list items, rest) := by
  have hword : readWord? ('[' :: s) = none := rfl
  rw [readValue, hword]
  rw [hskip] at hitems ⊢
  simp [hc, hitems, bind, Except.bind]

theorem readValue_members {c : Char} {members : Table} (hskip : skipSpaces s = c :: t)
    (hc : c ≠ '\x7d') (hmembers : readMembers fuel (skipSpaces s) = .ok (members, rest)) :
    readValue (fuel + 1) ('\x7b' :: s) = .ok (.table (Table.ofMembers members), rest) := by
  have hword : readWord? ('\x7b' :: s) = none := rfl
  rw [readValue, hword]
  rw [hskip] at hmembers ⊢
  simp [hc, hmembers, bind, Except.bind]

theorem readValue_list {items : List Value}
    (h : ∀ item ∈ items, Begins (renderAt (depth + 1) item) ∧ ReadsBack item) (rest : Text)
    (hfuel : (renderAt depth (.list items)).length ≤ fuel + 1) :
    readValue (fuel + 1) (renderAt depth (.list items) ++ rest) = .ok (.list items, rest) := by
  cases items with
  | nil => rfl
  | cons item items =>
    have hlength : (renderItems (depth + 1) (item :: items)).length ≤ fuel := by
      simp only [renderAt, List.length_append, List.length_cons] at hfuel
      omega
    have hitems := readItems_renderItems h depth rest hlength
    obtain ⟨hbegins, -⟩ := h item (List.mem_cons_self ..)
    have hskip := skipSpaces_renderItems hbegins items (newline depth ++ ']' :: rest)
    obtain ⟨c, t, ht, -, hc⟩ := hbegins
    rw [ht, List.cons_append] at hskip
    have hlayout : renderAt depth (.list (item :: items)) ++ rest =
        '[' :: (renderItems (depth + 1) (item :: items) ++ (newline depth ++ ']' :: rest)) := by
      simp [renderAt]
    rw [hlayout]
    exact readValue_items hskip hc hitems

theorem readValue_table {members : Table} (hdistinct : members.IsDistinct)
    (h : ∀ member ∈ members, (∃ key, member.1 = .text key) ∧
      Begins (renderAt (depth + 1) member.2) ∧ ReadsBack member.2) (rest : Text)
    (hfuel : (renderAt depth (.table members)).length ≤ fuel + 1) :
    readValue (fuel + 1) (renderAt depth (.table members) ++ rest) =
      .ok (.table members, rest) := by
  cases members with
  | nil => rfl
  | cons member members =>
    obtain ⟨key, value⟩ := member
    obtain ⟨⟨text, rfl⟩, -⟩ := h (key, value) (List.mem_cons_self ..)
    have hlength : (renderMembers (depth + 1) ((.text text, value) :: members)).length ≤ fuel := by
      simp only [renderAt, List.length_append, List.length_cons] at hfuel
      omega
    have hmembers := readMembers_renderMembers h depth rest hlength
    have hskip := skipSpaces_renderMembers (depth + 1) text value members
      (newline depth ++ '\x7d' :: rest)
    rw [escape_append] at hskip
    have hlayout : renderAt depth (.table ((.text text, value) :: members)) ++ rest =
        '\x7b' :: (renderMembers (depth + 1) ((.text text, value) :: members) ++
          (newline depth ++ '\x7d' :: rest)) := by
      simp [renderAt]
    rw [hlayout, readValue_members hskip (by decide) hmembers, Table.ofMembers_eq_self hdistinct]

/-- The first character of a value takes a step, so that there is one. -/
theorem ReadsBack.of_succ (h : IsCarried value)
    (hsteps : ∀ depth fuel rest, Stops isNumberPart rest →
      (renderAt depth value).length ≤ fuel + 1 →
        readValue (fuel + 1) (renderAt depth value ++ rest) = .ok (value, rest)) :
    ReadsBack value := by
  intro depth fuel rest hrest hfuel
  obtain ⟨c, t, ht, -⟩ := begins_renderAt h depth
  obtain ⟨fuel, rfl⟩ : ∃ k, fuel = k + 1 := by
    rw [ht, List.length_cons] at hfuel
    exact Nat.exists_eq_add_one.mpr (by omega)
  exact hsteps depth fuel rest hrest hfuel

/-- **Every value that JSON carries reads back**. -/
theorem IsCarried.readsBack (h : IsCarried value) : ReadsBack value := by
  induction h with
  | null => exact .of_succ .null fun _ _ _ _ _ => rfl
  | bool b => exact .of_succ (.bool b) fun _ _ _ _ _ => by cases b <;> rfl
  | int h => exact .of_succ (.int h) fun _ fuel _ hrest _ => (isNumber_ofInt h).readValue hrest fuel
  | float h => exact .of_succ (.float h) fun _ fuel _ hrest _ => readValue_ofBinary64 h hrest fuel
  | text s => exact .of_succ (.text s) fun _ fuel rest _ _ => readValue_escape s rest fuel
  | list h ih =>
    exact .of_succ (.list h) fun depth _ rest _ hfuel =>
      readValue_list (fun item hitem => ⟨begins_renderAt (h item hitem) (depth + 1), ih item hitem⟩)
        rest hfuel
  | table hkeys hdistinct h ih =>
    exact .of_succ (.table hkeys hdistinct h) fun depth _ rest _ hfuel =>
      readValue_table hdistinct (fun member hmember => ⟨hkeys member hmember,
        begins_renderAt (h member hmember) (depth + 1), ih member hmember⟩) rest hfuel

/-- **What is rendered is parsed** as the value that it was. -/
theorem parse_render (h : IsCarried value) : parse (render value) = .ok value := by
  have hread := h.readsBack 0 ((renderAt 0 value).length + 1) [] stops_nil (Nat.le_succ _)
  rw [List.append_nil] at hread
  rw [parse, render, (begins_renderAt h 0).skipSpaces, hread]
  rfl

end Json

end NativeFinder
