import NativeFinder.Proofs.Declaration.Agreement

/-!
# Entries that lack nothing

An entry is built from what is found in the text of a declaration, and a part that is not found is
replaced by a stand-in. In a block of a text every part is found, whatever the names in it are: the
keyword where the first reading of the declaration found the part is still there, so a search ends
there at the latest (`isSome_firstMatch?_of_suffix`).

`parts_of_mem_blocks` says what this makes of an entry: it `IsComplete`, and its signature can be
taken apart in one way only, even if the parameters hold the marks of a signature, since a word
holds neither a parenthesis nor a blank (`signatureOf_inj`).
-/

namespace NativeFinder

open Text

/-! ### Signatures -/

namespace Entry

/-- **A signature is made of one name, one list of parameters and one type only.** -/
theorem signatureOf_inj {name name' parameters parameters' returnType returnType' : Text}
    (hname : IsWord name) (hname' : IsWord name') (htype : IsWord returnType)
    (htype' : IsWord returnType')
    (h : signatureOf name parameters returnType = signatureOf name' parameters' returnType') :
    name = name' ∧ parameters = parameters' ∧ returnType = returnType' := by
  have hopen (s : Text) : Stops Character.isWord ("(" ++ s) := by
    exact stops_cons.mpr (by decide)
  have hclose (s : Text) : Stops Character.isWord (s ++ "): ").reverse := by
    rw [List.reverse_append]
    exact stops_cons.mpr (by decide)
  obtain ⟨hfront, rfl⟩ := append_inj_of_stops_reverse (hclose _) (hclose _) htype.all htype'.all h
  have hfront := List.append_cancel_right hfront
  rw [List.append_assoc, List.append_assoc] at hfront
  obtain ⟨rfl, hrest⟩ := append_inj_of_stops hname.all hname'.all (hopen _) (hopen _) hfront
  exact ⟨rfl, List.append_cancel_left hrest, rfl⟩

/-- An entry is **complete** if it lacks none of its parts: the name and the return type are words,
the parameters are not empty and have no blanks around them, and the signature is made of the
three. -/
structure IsComplete (e : Entry) : Prop where
  name : IsWord e.name
  parameters_ne_nil : e.parameters ≠ []
  stops_parameters : Stops Character.isBlank e.parameters
  stops_reverse_parameters : Stops Character.isBlank e.parameters.reverse
  returnType : IsWord e.returnType
  signature : e.signature = signatureOf e.name e.parameters e.returnType

theorem signature_build (name parameters returnType : Option Text) (description : Text) :
    (build name parameters returnType description).signature =
      signatureOf (build name parameters returnType description).name
        (build name parameters returnType description).parameters
        (build name parameters returnType description).returnType :=
  rfl

/-- Nothing complete is called by the stand-in for a name. -/
theorem IsComplete.name_ne_unknownName {e : Entry} (h : e.IsComplete) : e.name ≠ unknownName := by
  intro hname
  have hnot : ¬ IsWord unknownName := by decide
  exact hnot (hname ▸ h.name)

end Entry

/-! ### Searching the text of a declaration -/

namespace Declaration

variable {α : Type} {f : Text → Option α} {d : Declaration}

/-- What is found is found at some place of the text. -/
theorem exists_of_firstMatch?_eq_some {s : Text} {a : α} (h : firstMatch? f s = some a) :
    ∃ v, v <:+ s ∧ f v = some a := by
  induction s with
  | nil => exact ⟨[], List.suffix_rfl, h⟩
  | cons c s ih =>
    rw [firstMatch?] at h
    cases hf : f (c :: s) with
    | some b =>
      rw [hf] at h
      exact ⟨c :: s, List.suffix_rfl, hf.trans h⟩
    | none =>
      rw [hf] at h
      obtain ⟨v, hv, hfv⟩ := ih h
      exact ⟨v, hv.trans (List.suffix_cons c s), hfv⟩

/-- A search ends at a place where something is read, if not before it. -/
theorem isSome_firstMatch?_of_suffix {s v : Text} (hv : v <:+ s) (h : (f v).isSome) :
    (firstMatch? f s).isSome := by
  induction s with
  | nil => rwa [List.suffix_nil.mp hv] at h
  | cons c s ih =>
    cases hf : f (c :: s) with
    | some a => rw [firstMatch?_of_eq_some hf]; rfl
    | none =>
      rcases List.suffix_cons_iff.mp hv with rfl | hv
      · rw [hf] at h
        cases h
      · rw [firstMatch?, hf]
        exact ih hv

/-- **Parameters are found** in every declaration. -/
theorem isSome_parametersIn?_text (hd : d.WellFormed) (hkind : d.IsClosed ∨ d.IsOpen) :
    (parametersIn? d.text).isSome := by
  have hsuffix : takesWord ++ (d.blanksOfTakes ++ (d.parameters ++ d.closing.text)) <:+ d.text :=
    ⟨d.lead ++ nativeWord ++ d.blanksOfNative ++ d.name ++ d.blanksOfName, by simp [text_eq, stem]⟩
  refine isSome_firstMatch?_of_suffix hsuffix ?_
  rcases hkind with hc | ho
  · obtain ⟨before, rest, hfirst⟩ := hd.exists_firstAt_returnsAt
    rw [parametersAt?_append hd.blanksOfTakes ((stops_append hc.ne_nil).mpr hc.stops),
      untilReturns?_of_firstAt hfirst]
    rfl
  · rw [ho.parametersAt?_eq hd]
    simp

/-- **A return type is found** in every declaration, and it is a word. -/
theorem exists_returnTypeIn?_text (hd : d.WellFormed) :
    ∃ w, returnTypeIn? d.text = some w ∧ IsWord w := by
  have hsuffix : d.ending <:+ d.text :=
    ⟨d.stem ++ d.blanksOfTakes ++ d.parameters ++ d.blanksOfParameters,
      by simp [text_eq, closing_text]⟩
  have hending : wordAt? returnsWord d.ending = some d.returnType := by
    have happend : d.ending = returnsWord ++ (d.blanksOfReturns ++ (d.returnType ++ [])) := by
      simp [ending]
    rw [happend]
    exact wordAt?_append hd.blanksOfReturns hd.returnType stops_nil
  obtain ⟨w, hw⟩ := Option.isSome_iff_exists.mp
    (isSome_firstMatch?_of_suffix (f := wordAt? returnsWord) hsuffix (by simp [hending]))
  obtain ⟨v, -, hv⟩ := exists_of_firstMatch?_eq_some hw
  obtain ⟨-, -, -, -, hword, -⟩ := wordAt?_eq_some_iff.mp hv
  exact ⟨w, hw, hword⟩

/-- What is shown for parameters is never empty and has no blanks around it. -/
theorem shown_ne_nil_and_stops (parameters : Text) :
    shown parameters ≠ [] ∧ Stops Character.isBlank (shown parameters) ∧
      Stops Character.isBlank (shown parameters).reverse := by
  by_cases h : trim parameters = []
  · rw [shown, h]
    exact ⟨by decide, stops_cons.mpr (by decide), stops_cons.mpr (by decide)⟩
  · rw [shown, Entry.orElse_some h]
    exact ⟨h, stops_trim parameters, stops_reverse_trim parameters⟩

end Declaration

open Declaration

/-- **No entry of a text lacks a part.** All three searches in the text of its declaration find
something, its name is the name of the declaration and not the stand-in, it is complete, and name,
parameters and return type are the only ones that its signature is made of. -/
theorem parts_of_mem_blocks (s : Text) :
    ∀ b ∈ blocks s,
      let d := b.declaration
      let e := b.entry
      d.WellFormed ∧
      nameIn? d.text = some d.name ∧ (parametersIn? d.text).isSome ∧ (returnTypeIn? d.text).isSome ∧
      e.name = d.name ∧ e.name ≠ Entry.unknownName ∧ e.IsComplete ∧
      ∀ name parameters returnType, IsWord name → IsWord returnType →
        Entry.signatureOf name parameters returnType = e.signature →
          name = e.name ∧ parameters = e.parameters ∧ returnType = e.returnType := by
  intro b hb d e
  obtain ⟨hd, hkind⟩ := declaration_of_mem_blocks hb
  obtain ⟨p, hp⟩ := Option.isSome_iff_exists.mp (isSome_parametersIn?_text hd hkind)
  obtain ⟨w, hw, hword⟩ := exists_returnTypeIn?_text hd
  have hname : e.name = d.name := by
    simp [e, d, Block.entry, Entry.build, nameIn?_text hd, Entry.orElse_some hd.name.ne_nil]
  obtain ⟨hne, hstart, hend⟩ := shown_ne_nil_and_stops p
  have hparameters : e.parameters = shown p := entry_parameters hp
  have hreturnType : e.returnType = w := entry_returnType hw hword
  have hcomplete : e.IsComplete :=
    { name := hname ▸ hd.name
      parameters_ne_nil := hparameters ▸ hne
      stops_parameters := hparameters ▸ hstart
      stops_reverse_parameters := hparameters ▸ hend
      returnType := hreturnType ▸ hword
      signature := Entry.signature_build .. }
  refine ⟨hd, nameIn?_text hd, by simp [d, hp], by simp [d, hw], hname,
    hcomplete.name_ne_unknownName, hcomplete, fun name parameters returnType hn ht h => ?_⟩
  exact Entry.signatureOf_inj hn hcomplete.name ht hcomplete.returnType
    (h.trans hcomplete.signature)

/-- A name that ends with `takes` moves the start of the parameters, which hold the marks of a
signature; nothing is missing, and the signature can still be taken apart. -/
theorem parts_of_mem_blocks_of_takes :
    let b : Block :=
      ⟨"/** a */", ⟨"\n", " ", "Retakes", " ", " ", "a): b", " ", " ", "unit"⟩⟩
    b ∈ blocks "/** a */\nnative Retakes takes a): b returns unit" ∧
      b.entry.signature = "Retakes(takes a): b): unit" ∧ b.entry.IsComplete ∧
      ∀ parameters, Entry.signatureOf "Retakes" parameters "unit" = b.entry.signature →
        parameters = "takes a): b" := by
  intro b
  have hb : b ∈ blocks "/** a */\nnative Retakes takes a): b returns unit" := by decide +kernel
  obtain ⟨-, -, -, -, -, -, hcomplete, hunique⟩ := parts_of_mem_blocks _ b hb
  have hsignature : b.entry.signature = "Retakes(takes a): b): unit" := by decide +kernel
  have hparameters : b.entry.parameters = "takes a): b" := by decide +kernel
  refine ⟨hb, hsignature, hcomplete, fun parameters h => ?_⟩
  obtain ⟨-, hunique, -⟩ := hunique "Retakes" parameters "unit" (by decide) (by decide) h
  rw [hunique, hparameters]

end NativeFinder
