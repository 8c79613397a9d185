import NativeFinder.Proofs.Declaration.Fields
import NativeFinder.Proofs.Declaration.Reading

/-!
# Reading what was printed

A `Native` is a documented native before it is written down, and `Native.text` writes it. A text
made of such natives with fillers between them gives exactly their entries, in order
(`ofText_layout`): the fillers must not open a doc comment and have to start on a new line after
a native, and a native must be **printable**, so that none of its parts can be taken for another.

Behind a native the reading is the same as before it, with the filler as the next gap; so all that
is to be shown of a single native is that its declaration is closed, and that the fields of the
declaration are the ones that were written.
-/

namespace NativeFinder

open Text

/-- A native with its documentation. -/
structure Native where
  /-- What stands between the marks of the doc comment. -/
  doc : Text
  name : Text
  parameters : Text
  returnType : Text
deriving DecidableEq

namespace Native

variable {n : Native}

/-- The native as it is written, the declaration on a line of its own below the comment. -/
def text (n : Native) : Text :=
  Piece.opening ++ n.doc ++ Piece.closing ++ "\nnative " ++ n.name ++ " takes " ++ n.parameters ++
    " returns " ++ n.returnType

/-- A native is **printable** if its name and its return type are words, and if no part before a
mark or a keyword can be taken for it. -/
structure Printable (n : Native) : Prop where
  doc : ¬ Piece.closing <:+: n.doc
  name : IsWord n.name
  returnType : IsWord n.returnType
  name_takes : ¬ Declaration.takesWord <:+ n.name
  name_returns : ¬ Declaration.returnsWord <:+ n.name
  /-- The list of parameters is not blank: where there are none, a word says so. -/
  parameters : ∃ c ∈ n.parameters, Character.isBlank c = false
  parameters_returns : ¬ Declaration.returnsWord <:+: n.parameters

instance (n : Native) : Decidable n.Printable :=
  decidable_of_iff
    ((¬ Piece.closing <:+: n.doc ∧ IsWord n.name ∧ IsWord n.returnType) ∧
      (¬ Declaration.takesWord <:+ n.name ∧ ¬ Declaration.returnsWord <:+ n.name) ∧
      (n.parameters.any fun c => !Character.isBlank c) ∧
      ¬ Declaration.returnsWord <:+: n.parameters)
    ⟨fun ⟨⟨hd, hn, hr⟩, ⟨ht, hr'⟩, hp, hp'⟩ => ⟨hd, hn, hr, ht, hr', by simpa using hp, hp'⟩,
      fun h => ⟨⟨h.doc, h.name, h.returnType⟩, ⟨h.name_takes, h.name_returns⟩,
        by simpa using h.parameters, h.parameters_returns⟩⟩

/-- The entry of a native: its own parts, with the blanks around the parameters taken away. -/
def entry (n : Native) : Entry where
  name := n.name
  signature := Entry.signatureOf n.name (trim n.parameters) n.returnType
  description := n.text
  parameters := trim n.parameters
  returnType := n.returnType

/-! ### The declaration of a native -/

/-- The declaration that is written. The blanks around the parameters belong to the blanks of
the keywords. -/
def declaration (n : Native) : Declaration where
  lead := "\n"
  blanksOfNative := " "
  name := n.name
  blanksOfName := " "
  blanksOfTakes := " " ++ leading n.parameters
  parameters := trim n.parameters
  blanksOfParameters := trailing n.parameters ++ " "
  blanksOfReturns := " "
  returnType := n.returnType

/-- The doc comment and the declaration that are written. -/
def block (n : Native) : Block := ⟨Piece.opening ++ n.doc ++ Piece.closing, n.declaration⟩

theorem text_block (n : Native) : n.block.text = n.text := by
  have hnative : ("\nnative " : Text) = "\n" ++ Declaration.nativeWord ++ " " := rfl
  have htakes : (" takes " : Text) = " " ++ Declaration.takesWord ++ " " := rfl
  have hreturns : (" returns " : Text) = " " ++ Declaration.returnsWord ++ " " := rfl
  rw [text, hnative, htakes, hreturns, ← leading_append_trim n.parameters]
  simp only [block, Block.text, declaration, Declaration.text, List.append_assoc]

private theorem isBlanks_space : IsBlanks " " := by decide

theorem Printable.wellFormed (h : n.Printable) : n.declaration.WellFormed where
  lead := ⟨List.cons_ne_nil _ _, by simp [declaration, Character.isBlank]⟩
  getLast_lead := rfl
  blanksOfNative := isBlanks_space
  name := h.name
  blanksOfName := isBlanks_space
  blanksOfTakes := isBlanks_space.append isBlank_of_mem_leading
  blanksOfParameters := by
    refine ⟨List.append_ne_nil_of_right_ne_nil _ isBlanks_space.ne_nil, fun c hc => ?_⟩
    rcases List.mem_append.mp hc with hc | hc
    · exact isBlank_of_mem_trailing c hc
    · exact isBlanks_space.all c hc
  blanksOfReturns := isBlanks_space
  returnType := h.returnType

theorem Printable.trim_parameters_ne_nil (h : n.Printable) : trim n.parameters ≠ [] := by
  intro hnil
  obtain ⟨c, hc, hblank⟩ := h.parameters
  rw [trim_eq_nil_iff.mp hnil c hc] at hblank
  exact absurd hblank (by decide)

theorem Printable.not_returns_infix_trim (h : n.Printable) :
    ¬ Declaration.returnsWord <:+: trim n.parameters :=
  fun hin => h.parameters_returns (hin.trans (trim_isInfix n.parameters))

/-- The declaration of a printable native is closed: no `returns` comes before its own. -/
theorem Printable.isClosed (h : n.Printable) : n.declaration.IsClosed where
  ne_nil := h.trim_parameters_ne_nil
  stops := stops_trim n.parameters
  first := by
    intro y hy hne hat
    rw [Declaration.closing_text] at hat
    exact Declaration.not_returnsAt_of_not_infix h.not_returns_infix_trim
      (stops_reverse_trim n.parameters) h.wellFormed.blanksOfParameters y hy hne hat.returnsAt

/-- The entry of the block is the entry of the native. -/
theorem Printable.entry_block (h : n.Printable) : n.block.entry = n.entry := by
  have hd := h.wellFormed
  have hname : Declaration.nameIn? n.declaration.text = some n.name := Declaration.nameIn?_text hd
  have hparameters : Declaration.parametersIn? n.declaration.text = some (trim n.parameters) :=
    Declaration.parametersIn?_text hd h.name_takes h.trim_parameters_ne_nil
      (stops_trim n.parameters) (stops_reverse_trim n.parameters) h.not_returns_infix_trim
  have hreturnType : Declaration.returnTypeIn? n.declaration.text = some n.returnType :=
    Declaration.returnTypeIn?_text hd h.name_returns
      (Declaration.embedded_of_not_infix h.not_returns_infix_trim)
  have htrim : trim (trim n.parameters) = trim n.parameters :=
    trim_eq_self (stops_trim n.parameters) (stops_reverse_trim n.parameters)
  rw [Block.entry, text_block]
  simp only [block, hname, hparameters, hreturnType, Entry.build, Option.map_some, htrim,
    Entry.orElse_some h.name.ne_nil, Entry.orElse_some h.trim_parameters_ne_nil,
    Entry.orElse_some h.returnType.ne_nil]
  rfl

end Native

/-! ### Texts of natives -/

/-- Natives one after the other, each with the filler behind it. -/
def layout (ns : List (Native × Text)) : Text := ns.flatMap fun q => q.1.text ++ q.2

/-- The blocks of a text of printable natives. -/
private theorem blocks_append_layout (ns : List (Native × Text))
    (hns : ∀ q ∈ ns, q.1.Printable)
    (hfill : ∀ q ∈ ns, ¬ Piece.opening <:+: q.2 ∧ (q.2 = [] ∨ q.2.head? = some '\n'))
    (hbetween : ∀ q ∈ ns.dropLast, q.2 ≠ []) :
    ∀ gap : Text, ¬ Piece.opening <:+: gap →
      blocks (gap ++ layout ns) = ns.map fun q => q.1.block := by
  induction ns with
  | nil =>
    intro gap hgap
    rw [layout, List.flatMap_nil, List.append_nil]
    exact blocks_of_next?_eq_none (Piece.next?_eq_none_iff.mpr (.inl hgap))
  | cons q ns ih =>
    intro gap hgap
    obtain ⟨hq, hns⟩ := List.forall_mem_cons.mp hns
    obtain ⟨⟨hopening, hstart⟩, hfill⟩ := List.forall_mem_cons.mp hfill
    have htail : ∀ q ∈ ns.dropLast, q.2 ≠ [] := by
      intro r hr
      have hne : ns ≠ [] := by
        rintro rfl
        simp at hr
      exact hbetween r (by rw [List.dropLast_cons_of_ne_nil hne]; exact List.mem_cons_of_mem q hr)
    -- the return type ends where the filler starts: at a line feed or at the end of the text
    have hrest : Stops Character.isWord (q.2 ++ layout ns) := by
      rcases hstart with hnil | hhead
      · have hlast : ns = [] := by
          by_contra hne
          exact hbetween q (by rw [List.dropLast_cons_of_ne_nil hne]; simp) hnil
        rw [hnil, hlast]
        exact stops_nil
      · obtain ⟨t, ht⟩ : ∃ t, q.2 = '\n' :: t := List.head?_eq_some_iff.mp hhead
        rw [ht]
        exact stops_cons.mpr (by decide)
    have hparse := Declaration.parse?_text_append_of_isClosed hq.wellFormed hq.isClosed hrest
    have hcomment : Piece.IsDocComment q.1.block.comment := ⟨q.1.doc, rfl, hq.doc⟩
    have htext : gap ++ layout (q :: ns) = gap ++ q.1.block.text ++ (q.2 ++ layout ns) := by
      simp [layout, Native.text_block]
    rw [htext, List.map_cons, ← ih hns hfill htail q.2 hopening]
    exact blocks_append_of_parse? hgap hcomment hparse

/-- **Reading undoes printing.** A text of printable natives, with fillers that open no doc
comment and, behind a native, start on a new line, gives the entries of the natives and no
others, in order. -/
theorem ofText_layout (first : Text) (ns : List (Native × Text))
    (hns : ∀ q ∈ ns, q.1.Printable) (hfirst : ¬ Piece.opening <:+: first)
    (hfill : ∀ q ∈ ns, ¬ Piece.opening <:+: q.2 ∧ (q.2 = [] ∨ q.2.head? = some '\n'))
    (hbetween : ∀ q ∈ ns.dropLast, q.2 ≠ []) :
    Entry.ofText (first ++ layout ns) = ns.map fun q => q.1.entry := by
  rw [Entry.ofText, blocks_append_layout ns hns hfill hbetween first hfirst, List.map_map]
  exact List.map_congr_left fun q hq => (hns q hq).entry_block

/-- Marks and keywords do no harm where they stand: at the end of a filler or a doc comment, in a
name, and in the parameters. -/
theorem ofText_layout_of_marks :
    Entry.ofText
        (("/" : Text) ++ layout
          [(⟨"/ *", "takes_it", " /** p */\n native takes\t", "unit"⟩, "\n// /*"),
            (⟨"", "native", "nothing", "returns"⟩, "")]) =
      [{ name := "takes_it"
         signature := "takes_it(/** p */\n native takes): unit"
         description := "/**/ **/\nnative takes_it takes  /** p */\n native takes\t returns unit"
         parameters := "/** p */\n native takes"
         returnType := "unit" },
       { name := "native"
         signature := "native(nothing): returns"
         description := "/***/\nnative native takes nothing returns returns"
         parameters := "nothing"
         returnType := "returns" }] := by
  rw [ofText_layout "/" _ (by decide) (by decide) (by decide) (by decide)]
  decide +kernel

end NativeFinder
