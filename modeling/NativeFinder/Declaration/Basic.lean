import NativeFinder.Text.Basic

/-!
# Declarations of natives

A native is declared, directly after its doc comment, by

    native CreateUnit takes player id, integer unitid returns unit

at the start of a line. `Declaration` holds the parts of such a declaration in the order in
which they are written, from the blanks that lead to it up to the return type, and
`Declaration.text` puts them together again.

`Declaration.parse?` reads a declaration at the start of a text. The blanks before it are
taken as far as they go and have to end in a line feed; words and blanks are taken as far as
they go. The parameters end before the **first** place after the blanks of `takes` where
blanks, `returns`, blanks and a word follow one another, however far away that is. Only
where there is no such place at all may the blanks of `takes` give up their last one, which
then leads to `returns`: the list of parameters is empty.
-/

namespace NativeFinder

/-- The parts of a declaration, in the order in which they are written. -/
structure Declaration where
  /-- Blanks up to the start of the line. -/
  lead : Text
  blanksOfNative : Text
  name : Text
  blanksOfName : Text
  blanksOfTakes : Text
  parameters : Text
  blanksOfParameters : Text
  blanksOfReturns : Text
  returnType : Text
deriving DecidableEq, Inhabited

namespace Declaration

open Text

/-- The keyword before the name. -/
def nativeWord : Text := "native"

/-- The keyword before the parameters. -/
def takesWord : Text := "takes"

/-- The keyword before the return type. -/
def returnsWord : Text := "returns"

/-- The text of a declaration. -/
def text (d : Declaration) : Text :=
  d.lead ++ nativeWord ++ d.blanksOfNative ++ d.name ++ d.blanksOfName ++ takesWord ++
    d.blanksOfTakes ++ d.parameters ++ d.blanksOfParameters ++ returnsWord ++
    d.blanksOfReturns ++ d.returnType

/-! ### The part after the parameters -/

/-- The **closing** of a declaration: the blanks after the parameters, those after `returns`,
and the return type. -/
structure Closing where
  blanksOfParameters : Text
  blanksOfReturns : Text
  returnType : Text
deriving DecidableEq, Inhabited

/-- Reads `returns`, blanks and a word. -/
def parseReturns? (s : Text) : Option ((Text × Text) × Text) := do
  let s ← dropPrefix? returnsWord s
  let (blanks, s) ← takeBlanks? s
  let (returnType, s) ← takeWord? s
  some ((blanks, returnType), s)

/-- Reads a closing at the start of a text. -/
def parseClosing? (s : Text) : Option (Closing × Text) := do
  let (blanks, s) ← takeBlanks? s
  let ((blanksOfReturns, returnType), s) ← parseReturns? s
  some (⟨blanks, blanksOfReturns, returnType⟩, s)

/-- Cuts a text at its first closing: what stands before, the closing, and the rest. -/
def findClosing? : Text → Option (Text × Closing × Text)
  | [] => none
  | c :: s =>
    match parseClosing? (c :: s) with
    | some (closing, rest) => some ([], closing, rest)
    | none => (findClosing? s).map fun (before, found) => (c :: before, found)

/-! ### Whole declarations -/

/-- Reads the parameters and the closing after the blanks of `takes`. -/
def parseParameters? (blanks s : Text) : Option ((Text × Text × Closing) × Text) :=
  match findClosing? s with
  | some (parameters, closing, rest) => some ((blanks, parameters, closing), rest)
  | none =>
    match blanks.dropLast with
    | [] => none
    | shorter => (parseReturns? s).map fun ((blanksOfReturns, returnType), rest) =>
        ((shorter, [], ⟨blanks.drop shorter.length, blanksOfReturns, returnType⟩), rest)

/-- Reads the blanks before a declaration, the last of which is a line feed. -/
def takeLead? (s : Text) : Option (Text × Text) :=
  if (s.takeWhile Character.isBlank).getLast? == some '\n' then
    some (s.takeWhile Character.isBlank, s.dropWhile Character.isBlank)
  else none

/-- The blanks before a declaration are what a text starts with. -/
theorem eq_append_of_takeLead? {s lead rest : Text} (h : takeLead? s = some (lead, rest)) :
    s = lead ++ rest := by
  unfold takeLead? at h
  split at h
  · simp only [Option.some.injEq, Prod.mk.injEq] at h
    rw [← h.1, ← h.2]
    exact List.takeWhile_append_dropWhile.symm
  · simp at h

/-- Reads a declaration at the start of a text; the second part is the rest of the text. -/
def parse? (s : Text) : Option (Declaration × Text) := do
  let (lead, s) ← takeLead? s
  let s ← dropPrefix? nativeWord s
  let (blanksOfNative, s) ← takeBlanks? s
  let (name, s) ← takeWord? s
  let (blanksOfName, s) ← takeBlanks? s
  let s ← dropPrefix? takesWord s
  let (blanks, s) ← takeBlanks? s
  let ((blanksOfTakes, parameters, closing), rest) ← parseParameters? blanks s
  let declaration : Declaration :=
    { lead, blanksOfNative, name, blanksOfName, blanksOfTakes, parameters
      blanksOfParameters := closing.blanksOfParameters
      blanksOfReturns := closing.blanksOfReturns
      returnType := closing.returnType }
  some (declaration, rest)

/-! ### The reading keeps the text -/

/-- `returns` and what follows it make up the text that they were read from. -/
theorem eq_append_of_parseReturns? {s blanks returnType rest : Text}
    (h : parseReturns? s = some ((blanks, returnType), rest)) :
    s = returnsWord ++ blanks ++ returnType ++ rest := by
  simp only [parseReturns?, Option.bind_eq_bind, Option.bind_eq_some_iff, Prod.exists,
    Option.some.injEq, Prod.mk.injEq] at h
  obtain ⟨s₁, h₁, b, s₂, h₂, r, s₃, h₃, ⟨rfl, rfl⟩, rfl⟩ := h
  rw [dropPrefix?_eq_some_iff.mp h₁, eq_append_of_takeRun? h₂, eq_append_of_takeRun? h₃]
  simp

/-- The text of a closing. -/
def Closing.text (c : Closing) : Text :=
  c.blanksOfParameters ++ returnsWord ++ c.blanksOfReturns ++ c.returnType

/-- A closing is what its text starts with. -/
theorem eq_append_of_parseClosing? {s rest : Text} {closing : Closing}
    (h : parseClosing? s = some (closing, rest)) : s = closing.text ++ rest := by
  simp only [parseClosing?, Option.bind_eq_bind, Option.bind_eq_some_iff, Prod.exists,
    Option.some.injEq, Prod.mk.injEq] at h
  obtain ⟨b, s₁, h₁, br, r, s₂, h₂, rfl, rfl⟩ := h
  rw [eq_append_of_takeRun? h₁, eq_append_of_parseReturns? h₂]
  simp [Closing.text]

/-- The parts of a cut at a closing make up the text. -/
theorem eq_append_of_findClosing? {s before rest : Text} {closing : Closing}
    (h : findClosing? s = some (before, closing, rest)) :
    s = before ++ closing.text ++ rest := by
  induction s generalizing before with
  | nil => simp [findClosing?] at h
  | cons c s ih =>
    simp only [findClosing?] at h
    split at h
    · rename_i found r hp
      simp only [Option.some.injEq, Prod.mk.injEq] at h
      obtain ⟨rfl, rfl, rfl⟩ := h
      simpa using eq_append_of_parseClosing? hp
    · simp only [Option.map_eq_some_iff, Prod.exists, Prod.mk.injEq] at h
      obtain ⟨b, cl, r, hf, rfl, rfl, rfl⟩ := h
      rw [ih hf]
      simp

/-- Parameters and closing, with the blanks before them, make up the text. -/
theorem eq_append_of_parseParameters? {blanks s blanksOfTakes parameters rest : Text}
    {closing : Closing}
    (h : parseParameters? blanks s = some ((blanksOfTakes, parameters, closing), rest)) :
    blanks ++ s = blanksOfTakes ++ parameters ++ closing.text ++ rest := by
  unfold parseParameters? at h
  split at h
  · rename_i p c r hf
    simp only [Option.some.injEq, Prod.mk.injEq] at h
    obtain ⟨⟨rfl, rfl, rfl⟩, rfl⟩ := h
    rw [eq_append_of_findClosing? hf]
    simp
  · split at h
    · simp at h
    · simp only [Option.map_eq_some_iff, Prod.exists, Prod.mk.injEq] at h
      obtain ⟨br, r, t, hr, ⟨rfl, rfl, rfl⟩, rfl⟩ := h
      rw [eq_append_of_parseReturns? hr]
      have hb : blanks.dropLast ++ blanks.drop blanks.dropLast.length = blanks := by
        rw [List.length_dropLast, List.dropLast_eq_take, List.take_append_drop]
      simp only [Closing.text, List.append_nil, List.append_assoc]
      rw [← List.append_assoc blanks.dropLast, hb]

/-- A declaration and the rest make up the text that it was read from. -/
theorem eq_append_of_parse? {s rest : Text} {d : Declaration}
    (h : parse? s = some (d, rest)) : s = d.text ++ rest := by
  simp only [parse?, Option.bind_eq_bind, Option.bind_eq_some_iff, Prod.exists,
    Option.some.injEq, Prod.mk.injEq] at h
  obtain ⟨lead, s₀, h₀, s₁, h₁, b₁, s₂, h₂, n, s₃, h₃, b₂, s₄, h₄, s₅, h₅, b₃, s₆, h₆, b₄, p,
    c, r, h₇, rfl, rfl⟩ := h
  have hp := eq_append_of_parseParameters? h₇
  rw [eq_append_of_takeLead? h₀, dropPrefix?_eq_some_iff.mp h₁, eq_append_of_takeRun? h₂,
    eq_append_of_takeRun? h₃, eq_append_of_takeRun? h₄, dropPrefix?_eq_some_iff.mp h₅,
    eq_append_of_takeRun? h₆, hp]
  simp [text, Closing.text]

end Declaration

end NativeFinder
