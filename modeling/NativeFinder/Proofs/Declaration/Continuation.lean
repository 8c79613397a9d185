import NativeFinder.Proofs.Declaration.Reading

/-!
# Reading on

What becomes of the entries of a text when more text follows? `ofTexts_prefix_iff` answers this
for files that are added at the end. All entries but the last one always stay as they are. The
last one stays too, **unless** its declaration is open, that is without parameters, and a closing
follows from its `returns` on, however far behind it: then the declaration is read up to that
closing, and everything on the way becomes its list of parameters. `ofTexts_not_prefix_of_open`
shows this happen.

The reason why no other entry can change: an open declaration is read only if no closing
follows, so it is the last one; a closed one is read as it is; and a comment that is skipped
before a block stays skipped, because what leads up to the parameters of a declaration holds no
slash, so the declaration would end at the closing of that block.
-/

namespace NativeFinder

open Text

/-! ### Declarations met by the reading -/

/-- The reading of `s` meets the declaration `d`, and `after` is what follows it in the text. -/
def Declares (s : Text) (d : Declaration) (after : Text) : Prop :=
  ∃ ps p qs, (pieces s).1 = ps ++ p :: qs ∧ p.declaration = some d ∧
    after = qs.flatMap Piece.text ++ (pieces s).2

variable {s rest u : Text} {p : Piece} {d : Declaration}

/-- What the reading meets is met at its first step or later. -/
theorem declares_iff_of_next?_eq_some {after : Text} (h : Piece.next? s = some (p, rest)) :
    Declares s d after ↔ p.declaration = some d ∧ after = rest ∨ Declares rest d after := by
  rw [Declares, pieces_of_next?_eq_some h]
  constructor
  · rintro ⟨ps, p', qs, hps, hd, hafter⟩
    cases ps with
    | nil =>
      obtain ⟨rfl, rfl⟩ : p = p' ∧ (pieces rest).1 = qs := by simpa using hps
      exact .inl ⟨hd, by rw [hafter, ← eq_flatMap_pieces]⟩
    | cons q ps =>
      obtain ⟨-, hps⟩ := List.cons.inj hps
      exact .inr ⟨ps, p', qs, hps, hd, hafter⟩
  · rintro (⟨hd, rfl⟩ | ⟨ps, p', qs, hps, hd, hafter⟩)
    · exact ⟨[], p, (pieces after).1, rfl, hd, eq_flatMap_pieces after⟩
    · exact ⟨p :: ps, p', qs, by simp [hps], hd, hafter⟩

/-- A declaration that is met makes a block. -/
theorem Declares.blocks_ne_nil {after : Text} (h : Declares s d after) : blocks s ≠ [] := by
  obtain ⟨ps, p, qs, hps, hd, -⟩ := h
  rw [blocks, hps]
  simp [Piece.block?, hd]

/-- A text with a block holds a closing, and a slash before it. -/
theorem exists_closing_of_blocks_ne_nil (s : Text) (h : blocks s ≠ []) :
    ∃ x, ∃ c : Declaration.Closing, ∃ y, s = x ++ c.text ++ y ∧ '/' ∈ x ∧ c.WellFormed := by
  induction s using pieces_induction with
  | done s hs => exact absurd (blocks_of_next?_eq_none hs) h
  | step s p rest hs ih =>
    obtain ⟨after, rfl, hp⟩ := Piece.reads_of_next? hs
    have hslash : '/' ∈ p.comment := by
      obtain ⟨body, hbody, -⟩ := hp.comment
      rw [hbody]
      simp [Piece.opening]
    cases hd : p.declaration with
    | none =>
      rw [blocks_of_skipped hs hd] at h
      obtain ⟨x, c, y, rfl, hx, hc⟩ := ih h
      refine ⟨p.gap ++ p.comment ++ x, c, y, ?_, by simp [hx], hc⟩
      rw [hp.skipped hd]
      simp
    | some d =>
      obtain ⟨hwf, rfl, -⟩ := hp.block d hd
      refine ⟨p.gap ++ p.comment ++ (d.stem ++ d.blanksOfTakes ++ d.parameters), d.closing, rest,
        ?_, by simp [hslash], hwf.closing⟩
      rw [d.text_eq]
      simp

/-! ### One step before more text -/

/-- What leads up to the parameters of a declaration holds no slash. -/
theorem slash_not_mem_stem (hd : d.WellFormed) : '/' ∉ d.stem ++ d.blanksOfTakes := by
  have hblank : ∀ {b : Text}, IsBlanks b → '/' ∉ b := fun hb hmem =>
    absurd (hb.all _ hmem) (by decide)
  have hword : ∀ {w : Text}, IsWord w → '/' ∉ w := fun hw hmem =>
    absurd (hw.all _ hmem) (by decide)
  simp only [Declaration.stem, List.mem_append, not_or]
  exact ⟨⟨⟨⟨⟨⟨hblank hd.lead, hword Declaration.isWord_nativeWord⟩, hblank hd.blanksOfNative⟩,
    hword hd.name⟩, hblank hd.blanksOfName⟩, hword Declaration.isWord_takesWord⟩,
    hblank hd.blanksOfTakes⟩

/-- A declaration that goes on behind a closing with a slash before it could end there: the
slash belongs to the parameters. -/
theorem declarationAt_of_append {x y : Text} {c : Declaration.Closing} (hx : '/' ∈ x)
    (hc : c.WellFormed) (h : Declaration.DeclarationAt (x ++ c.text ++ y)) :
    Declaration.DeclarationAt (x ++ c.text) := by
  obtain ⟨d, hd, t, ht⟩ := h
  have hsplit : (d.stem ++ d.blanksOfTakes) ++ (d.parameters ++ d.closing.text ++ t) =
      x ++ (c.text ++ y) := by
    rw [← List.append_assoc x, ← ht, d.text_eq]
    simp
  rcases List.append_eq_append_iff.mp hsplit with ⟨z, rfl, -⟩ | ⟨z, hz, -⟩
  · refine ⟨d.withParameters d.blanksOfTakes z c, hd.withParameters hd.blanksOfTakes z hc, ?_⟩
    rw [d.text_withParameters]
  · exact absurd (hz ▸ List.mem_append_left z hx) (slash_not_mem_stem hd)

/-- Only what follows the comment decides a step. -/
private theorem next?_append (h : Piece.next? s = some (p, rest)) :
    ∃ after, Piece.afterComment after = (p.declaration, rest) ∧
      ∀ u d rest', Piece.afterComment (after ++ u) = (d, rest') →
        Piece.next? (s ++ u) = some (⟨p.gap, p.comment, d⟩, rest') := by
  obtain ⟨after, rfl, hgap, hcomment, hafter⟩ := Piece.next?_eq_some_iff.mp h
  refine ⟨after, hafter, fun u d rest' hu => Piece.next?_eq_some_iff.mpr ?_⟩
  exact ⟨after ++ u, by simp, hgap, hcomment, hu⟩

/-- A comment that is skipped before a block stays skipped. -/
theorem next?_append_of_skipped (h : Piece.next? s = some (p, rest)) (hp : p.declaration = none)
    (hrest : blocks rest ≠ []) (u : Text) : Piece.next? (s ++ u) = some (p, rest ++ u) := by
  obtain ⟨after, hafter, hstep⟩ := next?_append h
  rw [hp, Piece.afterComment_eq_iff] at hafter
  obtain ⟨rfl, hnone⟩ : after = rest ∧ Declaration.parse? after = none := by simpa using hafter
  obtain ⟨x, c, y, rfl, hx, hc⟩ := exists_closing_of_blocks_ne_nil after hrest
  rw [hstep u none (x ++ c.text ++ y ++ u), ← hp]
  refine Piece.afterComment_eq_iff.mpr (.inr ⟨rfl, rfl, ?_⟩)
  rw [Declaration.parse?_eq_none_iff] at hnone ⊢
  intro hat
  rw [List.append_assoc] at hat
  obtain ⟨d, hd, hpre⟩ := declarationAt_of_append hx hc hat
  exact hnone ⟨d, hd, hpre.trans (List.prefix_append _ y)⟩

/-- A declaration is read again from its text and what follows. -/
private theorem next?_append_of_parse? (h : Piece.next? s = some (p, rest))
    (hp : p.declaration = some d) {d' : Declaration} {rest' : Text}
    (hparse : Declaration.parse? (d.text ++ (rest ++ u)) = some (d', rest')) :
    Piece.next? (s ++ u) = some (⟨p.gap, p.comment, some d'⟩, rest') := by
  obtain ⟨after, hafter, hstep⟩ := next?_append h
  rw [hp, Piece.afterComment_eq_iff] at hafter
  obtain ⟨e, hde, hread⟩ := hafter.resolve_right (by simp)
  obtain rfl : d = e := Option.some.inj hde
  obtain ⟨rfl, -⟩ := Declaration.parse?_eq_some_iff.mp hread
  apply hstep
  exact Piece.afterComment_eq_iff.mpr (.inl ⟨d', rfl, by rw [List.append_assoc, hparse]⟩)

/-- A declaration without parameters is the last one: every block holds a closing. -/
theorem blocks_eq_nil_of_parameters_eq_nil (h : Piece.next? s = some (p, rest))
    (hp : p.declaration = some d) (hd : d.parameters = []) : blocks rest = [] := by
  obtain ⟨-, hnot⟩ := Piece.isOpen_of_next? h hp hd
  by_contra hne
  obtain ⟨x, c, y, rfl, -, hc⟩ := exists_closing_of_blocks_ne_nil rest hne
  exact hnot ⟨c, hc, d.ending ++ x, y, by simp⟩

/-- A declaration stays as it is before more text if it is closed, or if no closing follows. -/
theorem next?_append_of_settled (hu : Stops Character.isWord u)
    (h : Piece.next? s = some (p, rest)) (hp : p.declaration = some d)
    (hd : d.parameters = [] → ¬ Declaration.HasClosing (d.ending ++ rest ++ u)) :
    Piece.next? (s ++ u) = some (p, rest ++ u) := by
  obtain ⟨hwf, hrest, hkind⟩ := Piece.wellFormed_of_next? h hp
  have hstop : Stops Character.isWord (rest ++ u) := hrest.append hu
  have hparse : Declaration.parse? (d.text ++ (rest ++ u)) = some (d, rest ++ u) := by
    rcases hkind with hc | ⟨ho, -⟩
    · exact Declaration.parse?_text_append_of_isClosed hwf hc hstop
    · refine Declaration.parse?_text_append_of_isOpen hwf ho hstop ?_
      rw [← List.append_assoc]
      exact hd ho.eq_nil
  rw [next?_append_of_parse? h hp hparse, ← hp]

/-- A declaration without parameters before a closing is read with another text. -/
theorem next?_append_of_hasClosing (h : Piece.next? s = some (p, rest))
    (hp : p.declaration = some d) (hd : d.parameters = [])
    (hclosing : Declaration.HasClosing (d.ending ++ rest ++ u)) :
    ∃ d' rest', Piece.next? (s ++ u) = some (⟨p.gap, p.comment, some d'⟩, rest') ∧
      d'.text ≠ d.text := by
  obtain ⟨hwf, -, -⟩ := Piece.wellFormed_of_next? h hp
  obtain ⟨ho, hnot⟩ := Piece.isOpen_of_next? h hp hd
  have hending : ¬ Declaration.HasClosing d.ending := fun hin =>
    hnot (hin.mono (List.prefix_append _ rest).isInfix)
  rw [List.append_assoc] at hclosing
  obtain ⟨d', rest', hparse, hne⟩ :=
    Declaration.parse?_of_isOpen_of_hasClosing hwf ho hending hclosing
  exact ⟨d', rest', next?_append_of_parse? h hp hparse, hne⟩

/-- The block of a declaration that stays as it is, and what follows it before more text. -/
theorem blocks_append_of_settled (hu : Stops Character.isWord u)
    (h : Piece.next? s = some (p, rest)) (hp : p.declaration = some d)
    (hd : d.parameters = [] → ¬ Declaration.HasClosing (d.ending ++ rest ++ u)) :
    blocks (s ++ u) = ⟨p.comment, d⟩ :: blocks (rest ++ u) :=
  blocks_of_block (next?_append_of_settled hu h hp hd) hp

/-- A comment that is skipped before a block adds none, whatever follows the text. -/
theorem blocks_append_of_skipped (h : Piece.next? s = some (p, rest)) (hp : p.declaration = none)
    (hrest : blocks rest ≠ []) (u : Text) : blocks (s ++ u) = blocks (rest ++ u) :=
  blocks_of_skipped (next?_append_of_skipped h hp hrest u) hp

/-! ### Whole texts before more text -/

/-- More text settles what the reading of `s` says about open declarations: after none of
them, a closing follows in `s` or in the text `u` that is added. -/
def Settles (s u : Text) : Prop :=
  ∀ d after, Declares s d after → d.parameters = [] →
    ¬ Declaration.HasClosing (d.ending ++ after ++ u)

theorem settles_iff_of_skipped (h : Piece.next? s = some (p, rest)) (hp : p.declaration = none) :
    Settles s u ↔ Settles rest u := by
  simp only [Settles, declares_iff_of_next?_eq_some h, hp, reduceCtorEq, false_and, false_or]

theorem settles_iff_of_block (h : Piece.next? s = some (p, rest)) (hp : p.declaration = some d) :
    Settles s u ↔
      (d.parameters = [] → ¬ Declaration.HasClosing (d.ending ++ rest ++ u)) ∧ Settles rest u := by
  simp only [Settles, declares_iff_of_next?_eq_some h, hp, Option.some.injEq]
  constructor
  · intro hall
    exact ⟨hall d rest (.inl ⟨rfl, rfl⟩), fun e after he => hall e after (.inr he)⟩
  · rintro ⟨hfirst, hmore⟩ e after (⟨rfl, rfl⟩ | he)
    · exact hfirst
    · exact hmore e after he

/-- Without blocks there is nothing to settle. -/
theorem settles_of_blocks_eq_nil (h : blocks s = []) (u : Text) : Settles s u :=
  fun _ _ hd => absurd h hd.blocks_ne_nil

/-- Where all is settled, the blocks stay as they are. -/
theorem blocks_prefix_append (hu : Stops Character.isWord u) (s : Text) (h : Settles s u) :
    blocks s <+: blocks (s ++ u) := by
  induction s using pieces_induction with
  | done s hs =>
    rw [blocks_of_next?_eq_none hs]
    exact List.nil_prefix
  | step s p rest hs ih =>
    cases hp : p.declaration with
    | none =>
      rw [blocks_of_skipped hs hp]
      -- where no block follows, the comment may be completed by the text that is added
      by_cases hrest : blocks rest = []
      · rw [hrest]
        exact List.nil_prefix
      · rw [blocks_append_of_skipped hs hp hrest]
        exact ih ((settles_iff_of_skipped hs hp).mp h)
    | some d =>
      obtain ⟨hfirst, hmore⟩ := (settles_iff_of_block hs hp).mp h
      rw [blocks_of_block hs hp, blocks_append_of_settled hu hs hp hfirst]
      exact List.cons_prefix_cons.mpr ⟨rfl, ih hmore⟩

/-- Where the texts of the blocks stay as they are, all is settled. -/
theorem settles_of_map_text_prefix (hu : Stops Character.isWord u) (s : Text)
    (h : (blocks s).map Block.text <+: (blocks (s ++ u)).map Block.text) : Settles s u := by
  induction s using pieces_induction with
  | done s hs => exact settles_of_blocks_eq_nil (blocks_of_next?_eq_none hs) u
  | step s p rest hs ih =>
    cases hp : p.declaration with
    | none =>
      rw [settles_iff_of_skipped hs hp]
      by_cases hrest : blocks rest = []
      · exact settles_of_blocks_eq_nil hrest u
      · rw [blocks_of_skipped hs hp, blocks_append_of_skipped hs hp hrest] at h
        exact ih h
    | some d =>
      rw [settles_iff_of_block hs hp]
      have hfirst : d.parameters = [] → ¬ Declaration.HasClosing (d.ending ++ rest ++ u) := by
        -- otherwise the first block would have another text
        intro hnil hclosing
        obtain ⟨d', rest', hnext, hne⟩ := next?_append_of_hasClosing hs hp hnil hclosing
        rw [blocks_of_block hs hp, blocks_of_block hnext rfl, List.map_cons, List.map_cons,
          List.cons_prefix_cons] at h
        exact hne (List.append_cancel_left h.1).symm
      rw [blocks_of_block hs hp, blocks_append_of_settled hu hs hp hfirst, List.map_cons,
        List.map_cons, List.cons_prefix_cons] at h
      exact ⟨hfirst, ih h.2⟩

/-- All blocks but the last one stay as they are, settled or not. -/
theorem dropLast_blocks_prefix_append (hu : Stops Character.isWord u) (s : Text) :
    (blocks s).dropLast <+: blocks (s ++ u) := by
  induction s using pieces_induction with
  | done s hs =>
    rw [blocks_of_next?_eq_none hs]
    exact List.nil_prefix
  | step s p rest hs ih =>
    cases hp : p.declaration with
    | none =>
      rw [blocks_of_skipped hs hp]
      by_cases hrest : blocks rest = []
      · rw [hrest]
        exact List.nil_prefix
      · rw [blocks_append_of_skipped hs hp hrest]
        exact ih
    | some d =>
      rw [blocks_of_block hs hp]
      by_cases hrest : blocks rest = []
      · rw [hrest]
        exact List.nil_prefix
      -- a block follows, so the declaration has parameters
      have hfirst : d.parameters = [] → ¬ Declaration.HasClosing (d.ending ++ rest ++ u) :=
        fun hnil => absurd (blocks_eq_nil_of_parameters_eq_nil hs hp hnil) hrest
      rw [List.dropLast_cons_of_ne_nil hrest, blocks_append_of_settled hu hs hp hfirst]
      exact List.cons_prefix_cons.mpr ⟨rfl, ih⟩

/-! ### Files added at the end -/

/-- **What becomes of the entries when files are added at the end.** They all stay as they are
exactly if no open declaration among them has a closing behind it, in its own text or in the
files that are added; and all but the last one stay in any case. -/
theorem ofTexts_prefix_iff (xs ys : List Text) :
    (Entry.ofTexts xs <+: Entry.ofTexts (xs ++ ys) ↔
      ∀ d after, Declares (join ['\n'] xs) d after → d.parameters = [] →
        ¬ Declaration.HasClosing (d.ending ++ after ++ ys.flatMap ('\n' :: ·))) ∧
    (Entry.ofTexts xs).dropLast <+: Entry.ofTexts (xs ++ ys) := by
  by_cases hxs : xs = []
  · subst hxs
    have hnil : blocks (join ['\n'] []) = [] := blocks_of_next?_eq_none (by decide)
    have hentries : Entry.ofTexts [] = [] := by rw [Entry.ofTexts, Entry.ofText, hnil, List.map_nil]
    rw [hentries]
    exact ⟨iff_of_true List.nil_prefix (settles_of_blocks_eq_nil hnil _), List.nil_prefix⟩
  have hu : Stops Character.isWord (ys.flatMap ('\n' :: ·)) := by
    cases ys with
    | nil => exact stops_nil
    | cons y ys => exact stops_cons.mpr (by decide)
  have hjoin : join ['\n'] (xs ++ ys) = join ['\n'] xs ++ ys.flatMap ('\n' :: ·) :=
    join_append hxs ys
  rw [Entry.ofTexts, Entry.ofTexts, hjoin]
  refine ⟨⟨fun h => ?_, fun h => ?_⟩, ?_⟩
  · apply settles_of_map_text_prefix hu
    rw [← map_description_ofText, ← map_description_ofText]
    exact h.map Entry.description
  · exact (blocks_prefix_append hu _ h).map Block.entry
  · rw [Entry.ofText, ← List.map_dropLast]
    exact (dropLast_blocks_prefix_append hu _).map Block.entry

/-- An open declaration in one file takes in a whole block of the next file. -/
theorem ofTexts_not_prefix_of_open :
    ¬ Entry.ofTexts ["/** a */\nnative A takes  returns integer"] <+:
      Entry.ofTexts (["/** a */\nnative A takes  returns integer"] ++
        ["/** b */\nnative B takes nothing returns nothing"]) := by
  decide +kernel

/-! ### Reading the blocks again -/

/-- The blocks of a text are read again from their own texts, line by line, behind a gap. -/
private theorem blocks_append_join (s : Text) :
    ∀ gap : Text, ¬ Piece.opening <:+: gap →
      blocks (gap ++ join ['\n'] ((blocks s).map Block.text)) = blocks s := by
  induction s using pieces_induction with
  | done s hs =>
    intro gap hgap
    have hnone : Piece.next? gap = none := Piece.next?_eq_none_iff.mpr (.inl hgap)
    rw [blocks_of_next?_eq_none hs, List.map_nil, join, List.append_nil,
      blocks_of_next?_eq_none hnone]
  | step s p rest hs ih =>
    intro gap hgap
    cases hp : p.declaration with
    | none =>
      rw [blocks_of_skipped hs hp]
      exact ih gap hgap
    | some d =>
      obtain ⟨after, -, hreads⟩ := Piece.reads_of_next? hs
      obtain ⟨hwf, -, hkind⟩ := Piece.wellFormed_of_next? hs hp
      rw [blocks_of_block hs hp, List.map_cons, join_cons, ← List.append_assoc]
      cases hrest : blocks rest with
      | nil =>
        have hparse : Declaration.parse? (d.text ++ []) = some (d, []) := by
          rcases hkind with hc | ⟨ho, hnot⟩
          · exact Declaration.parse?_text_append_of_isClosed hwf hc stops_nil
          · refine Declaration.parse?_text_append_of_isOpen hwf ho stops_nil fun hin => hnot ?_
            exact hin.mono (by simpa using (List.prefix_append d.ending rest).isInfix)
        rw [List.map_nil, List.flatMap_nil,
          blocks_append_of_parse? hgap hreads.comment hparse,
          blocks_of_next?_eq_none (Piece.next?_eq_none_iff.mpr (.inl (by decide)))]
      | cons b bs =>
        -- a block follows, so the declaration is closed and its surroundings do not matter
        have hclosed : d.IsClosed := by
          refine hkind.resolve_right fun hopen => ?_
          simp [blocks_eq_nil_of_parameters_eq_nil hs hp hopen.1.eq_nil] at hrest
        let tail := ['\n'] ++ join ['\n'] ((blocks rest).map Block.text)
        have htail : ((b :: bs).map Block.text).flatMap (['\n'] ++ ·) = tail := by
          simp only [tail]
          rw [hrest, List.map_cons, join_cons, List.flatMap_cons, List.append_assoc]
        have hparse : Declaration.parse? (d.text ++ tail) = some (d, tail) :=
          Declaration.parse?_text_append_of_isClosed hwf hclosed (stops_cons.mpr (by decide))
        rw [htail, blocks_append_of_parse? hgap hreads.comment hparse, ih _ (by decide), hrest]

/-- **Reading the descriptions again gives the same entries**: the blocks of a text do not depend
on what stands between them. -/
theorem ofTexts_map_description (s : Text) :
    Entry.ofTexts ((Entry.ofText s).map Entry.description) = Entry.ofText s := by
  have hblocks := blocks_append_join s [] (by decide)
  rw [List.nil_append] at hblocks
  rw [map_description_ofText, Entry.ofTexts, Entry.ofText, hblocks, Entry.ofText]

end NativeFinder
