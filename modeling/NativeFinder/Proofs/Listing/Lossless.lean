import NativeFinder.Listing.Export
import NativeFinder.Proofs.Json.Values

/-!
# Listings in JSON lose nothing

A listing of entries or of matches is one JSON value. Reading it gives an object for each row, in
the same order, whose members hold the texts of the entry as they were, whatever characters they are
made of (`parse_listingJson`).

The score of a match is rounded to four places before it is written. That keeps the order of the
ranks: two scores can become equal, but they do not change places.
-/

namespace NativeFinder

/-- The member of an object under a key. -/
def Value.member? (key : Text) : Value → Option Value
  | .table members => Table.get? (.text key) members
  | _ => none

namespace Json

/-! ### Objects -/

/-- An object whose keys are different texts is carried if its values are. -/
theorem isCarried_textTable {members : List (Text × Value)}
    (hdistinct : (members.map Prod.fst).Nodup) (h : ∀ member ∈ members, IsCarried member.2) :
    IsCarried (textTable members) := by
  refine .table ?_ ?_ ?_
  · rintro member hmember
    obtain ⟨⟨key, value⟩, -, rfl⟩ := List.mem_map.mp hmember
    exact ⟨key, rfl⟩
  · rw [Table.IsDistinct, List.pairwise_map]
    refine (List.pairwise_map.mp hdistinct).imp fun {a b} hne => ?_
    rw [← Bool.not_eq_true, Key.text_same_iff]
    simpa [eq_comm] using hne
  · rintro member hmember
    obtain ⟨⟨key, value⟩, hmem, rfl⟩ := List.mem_map.mp hmember
    exact h _ hmem

theorem isCarried_entry (e : Entry) : IsCarried e.toValue := by
  refine isCarried_textTable (by simp only [List.map_cons, List.map_nil]; decide)
    fun member hmember => ?_
  simp only [List.mem_cons, List.not_mem_nil, or_false] at hmember
  rcases hmember with rfl | rfl | rfl | rfl | rfl <;> exact .text _

theorem isCarried_match (m : Match) : IsCarried m.toValue := by
  refine isCarried_textTable (by simp only [List.map_cons, List.map_nil]; decide)
    fun member hmember => ?_
  simp only [List.mem_cons, List.not_mem_nil, or_false] at hmember
  rcases hmember with rfl | rfl | rfl | rfl | rfl
  · exact .text _
  · exact .text _
  · exact .float (Binary64.inFormat_ofRat _)
  · exact .text _
  · exact .text _

end Json

/-! ### Rows -/

/-- An object **lists** an entry if it has all its texts. -/
structure Entry.IsListedAs (e : Entry) (object : Value) : Prop where
  name : object.member? "name" = some (.text e.name)
  signature : object.member? "signature" = some (.text e.signature)
  parameters : object.member? "parameters" = some (.text e.parameters)
  returnType : object.member? "return_type" = some (.text e.returnType)
  description : object.member? "description" = some (.text e.description)

/-- An object **lists** a match if it has the texts of the entry, the field that matched best, and
the score to four places. -/
structure Match.IsListedAs (m : Match) (object : Value) : Prop where
  name : object.member? "name" = some (.text m.entry.name)
  signature : object.member? "signature" = some (.text m.entry.signature)
  score : object.member? "score" = some (.float m.listedScore)
  matchedKey : object.member? "matched_key" = some (.text m.field.key)
  description : object.member? "description" = some (.text m.entry.description)

theorem Entry.isListedAs_toValue (e : Entry) : e.IsListedAs e.toValue := ⟨rfl, rfl, rfl, rfl, rfl⟩

theorem Match.isListedAs_toValue (m : Match) : m.IsListedAs m.toValue := ⟨rfl, rfl, rfl, rfl, rfl⟩

theorem Match.listedScore_mono {m m' : Match} (h : m.score ≤ m'.score) :
    m.listedScore.atMost m'.listedScore = true :=
  Binary64.atMost_ofRat (roundPlaces_mono 4 h)

/-- Whether the score of an object is at most that of another one. -/
def Value.ScoresAtMost (object other : Value) : Prop :=
  ∃ x y, object.member? "score" = some (.float x) ∧ other.member? "score" = some (.float y) ∧
    x.atMost y = true

/-! ### Listings -/

/-- **Listings in JSON lose nothing.** A listing of entries is read as one object for each entry, in
the same order, with the texts of the entry. A listing of matches is read as one object for each
match, in the order of the ranks, with the texts of its entry, the field that matched and the score
to four places; and the scores of the objects do not increase if those of the matches do not. -/
theorem parse_listingJson :
    (∀ entries : List Entry, ∃ objects,
      Json.parse (Entry.listingJson entries) = .ok (.list objects) ∧
        List.Forall₂ Entry.IsListedAs entries objects) ∧
      ∀ found : List Match, ∃ objects,
        Json.parse (Match.listingJson found) = .ok (.list objects) ∧
          List.Forall₂ Match.IsListedAs found objects ∧
          (found.Pairwise (fun m m' => m'.score ≤ m.score) →
            objects.Pairwise fun object other => other.ScoresAtMost object) := by
  refine ⟨fun entries => ⟨entries.map Entry.toValue, Json.parse_render (.list ?_), ?_⟩,
    fun found => ⟨found.map Match.toValue, Json.parse_render (.list ?_), ?_, fun hranks => ?_⟩⟩
  · rintro object hobject
    obtain ⟨e, -, rfl⟩ := List.mem_map.mp hobject
    exact Json.isCarried_entry e
  · rw [List.forall₂_map_right_iff, List.forall₂_same]
    exact fun e _ => e.isListedAs_toValue
  · rintro object hobject
    obtain ⟨m, -, rfl⟩ := List.mem_map.mp hobject
    exact Json.isCarried_match m
  · rw [List.forall₂_map_right_iff, List.forall₂_same]
    exact fun m _ => m.isListedAs_toValue
  · rw [List.pairwise_map]
    exact hranks.imp fun h => ⟨_, _, rfl, rfl, Match.listedScore_mono h⟩

/-- Matches with scores that are different, of which two are equal to four places, and with texts
that are escaped in every way: quotes, control characters, a character beyond the first plane. -/
def closeMatches : List Match :=
  let e : Entry :=
    { name := "Say\"\\", signature := "native Say\"\\ takes string 😀 returns nothing",
      description := "first\n\t\x01last\x7f – é", parameters := "string 😀",
      returnType := "nothing" }
  [{ entry := e, score := 191673 / 200000, field := .name, position := 2 },
    { entry := { e with description := "" }, score := 23959 / 25000, field := .description,
      position := 0 },
    { entry := e, score := 1 / 3, field := .returnType, position := 1 }]

/-- The two close scores become equal and keep their place before the third one. -/
theorem parse_listingJson_of_close_scores :
    ∃ objects, Json.parse (Match.listingJson closeMatches) = .ok (.list objects) ∧
      List.Forall₂ Match.IsListedAs closeMatches objects ∧
      objects.Pairwise (fun object other => other.ScoresAtMost object) ∧
      closeMatches.map Match.listedScore =
        [.ofRat (9584 / 10000), .ofRat (9584 / 10000), .ofRat (3333 / 10000)] := by
  have hranks : closeMatches.Pairwise fun m m' => m'.score ≤ m.score := by decide +kernel
  obtain ⟨objects, hparse, hlists, hscores⟩ := parse_listingJson.2 closeMatches
  exact ⟨objects, hparse, hlists, hscores hranks, by decide +kernel⟩

end NativeFinder
