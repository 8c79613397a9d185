import NativeFinder.Entry
import NativeFinder.Limit
import NativeFinder.Search.Similarity
import NativeFinder.Value
import Std.Data.TreeMap

/-!
# The search index

An `Index` holds entries together with the folded texts of the fields that are searched. A
query is folded in the same way; an entry matches if one of its fields reaches the `cutoff`
in points, and matches are ranked by the best of their fields, the earlier entry first among
equals. Of fields that are equally good the one that was named first is reported.

The fields are searched one after the other. Each of them reports the entries that match it, and
the reports are merged: for every position the best field so far is kept, and at the end the
positions are sorted.

`Index.build` checks the settings, which come as free values: a `threshold` from `0` (exact
matches only) to `1` (anything matches), and the least number of characters of a query.
-/

namespace NativeFinder

namespace Text

/-- The folded form of a text in a search, without blanks around it. -/
def folded (s : Text) : Text := trim (s.map Character.fold)

end Text

/-! ### Settings of a search -/

/-- Why a search cannot be set up. -/
inductive SettingError where
  | thresholdOutOfRange (value : Value)
  | lengthNotPositive (value : Value)
  | noKeys
  | unknownKeys (keys : List Text)
  | thresholdNotNumber (value : Value)
  | lengthNotNumber (value : Value)

namespace SettingError

/-- The wording of the errors. -/
def message : SettingError → Text
  | thresholdOutOfRange v => "Threshold must be between 0 and 1, got " ++ v.toText
  | lengthNotPositive v => "Minimum match length must be positive, got " ++ v.toText
  | noKeys => "At least one search key is required"
  | unknownKeys keys => "Unknown search keys: " ++ Text.join ", " keys
  | thresholdNotNumber v =>
    "'<=' not supported between instances of 'float' and '" ++ v.kindName ++ "'"
  | lengthNotNumber v =>
    "'<' not supported between instances of '" ++ v.kindName ++ "' and 'int'"

/-- Whether a setting is of the wrong kind, and not only out of range. -/
def isWrongKind : SettingError → Bool
  | thresholdNotNumber _ | lengthNotNumber _ => true
  | _ => false

end SettingError

namespace Value

/-- The number of a value; a truth value counts as `0` or `1`. -/
def toBinary64? : Value → Option Binary64
  | bool b => some (.finite false (if b then 1 else 0))
  | int n => some (.finite (n < 0) (n.natAbs : Rat))
  | float x => some x
  | null | text _ | bytes _ | day _ | moment _ | list _ | set _ | pair _ _ | table _ => none

end Value

/-- The threshold of a search: a number from `0` to `1`. -/
def checkThreshold (v : Value) : Except SettingError Rat :=
  match v.toBinary64? with
  | none => .error (.thresholdNotNumber v)
  | some x =>
    match x.toRat? with
    | some t => if 0 ≤ t && t ≤ 1 then .ok t else .error (.thresholdOutOfRange v)
    | none => .error (.thresholdOutOfRange v)

/-- The **least length** of a query: the least number of characters that is not below the
bound of the setting, or `none` if every number is. The value that is not a number bounds
nothing. -/
def checkLength (v : Value) : Except SettingError (Option Nat) :=
  match v.toBinary64? with
  | none => .error (.lengthNotNumber v)
  | some x =>
    if x.ltRat 1 then .error (.lengthNotPositive v)
    else match x with
      | .finite negative magnitude =>
        .ok (some (if negative then -magnitude else magnitude).ceil.toNat)
      | .infinite _ => .ok none
      | .nan => .ok (some 0)

/-! ### Indexes -/

/-- Entries with the folded texts of their searched fields. -/
structure Index where
  entries : List Entry
  fields : List Field
  threshold : Rat
  leastLength : Option Nat
deriving Inhabited

/-- An entry that matches a query. -/
structure Match where
  entry : Entry
  /-- From `0` to `1`, more is better. -/
  score : Rat
  /-- The field that matched best. -/
  field : Field
  /-- The place of the entry in the index. -/
  position : Nat
deriving Inhabited

/-! ### Merging reports -/

/-- A field of an entry with its points for a query. -/
structure Hit where
  points : Rat
  field : Field
deriving DecidableEq, Inhabited

/-- The better of two hits; the one that was found before, if they are equally good. -/
def Hit.orBetter (hit : Hit) : Option Hit → Hit
  | none => hit
  | some before => if before.points < hit.points then hit else before

/-- The best hits found so far, by the positions of their entries. -/
abbrev BestHits := Std.TreeMap Nat Hit

namespace BestHits

/-- Takes in the points that a field has at some positions. -/
def merge (best : BestHits) (field : Field) (report : List (Nat × Rat)) : BestHits :=
  report.foldl (fun best (position, points) =>
    best.alter position fun before => some (Hit.orBetter ⟨points, field⟩ before)) best

/-- Whether a hit stands before another one: it has more points, or as many at an earlier
position. -/
def standsBefore (a b : Nat × Hit) : Bool :=
  b.2.points < a.2.points || (a.2.points == b.2.points && a.1 ≤ b.1)

/-- All hits in the order in which they stand. -/
def ranked (best : BestHits) : List (Nat × Hit) := best.toList.mergeSort standsBefore

end BestHits

/-! ### Searching -/

namespace Index

/-- The fields that are searched unless others are named. -/
def defaultKeys : List Text := ["name", "signature", "description"]

/-- Checks the keys of the fields to search. -/
def checkKeys (keys : List Text) : Except SettingError (List Field) :=
  match keys, keys.filter fun k => (Field.ofKey? k).isNone with
  | [], _ => .error .noKeys
  | _, [] => .ok (keys.filterMap Field.ofKey?)
  | _, unknown => .error (.unknownKeys unknown)

/-- Sets up a search over entries; the threshold is checked first, the keys last. -/
def build (entries : List Entry) (keys : List Text) (threshold minMatchLength : Value) :
    Except SettingError Index := do
  let threshold ← checkThreshold threshold
  let leastLength ← checkLength minMatchLength
  let fields ← checkKeys keys
  .ok { entries, fields, threshold, leastLength }

/-- The folded text of a field. -/
def fieldText (field : Field) (e : Entry) : Text := Text.folded (field.get e)

/-- The points that a field needs to match. -/
def cutoff (index : Index) : Rat := Similarity.points index.threshold

/-- Whether a folded query is too short to match anything. -/
def isTooShort (index : Index) (query : Text) : Bool :=
  match index.leastLength with
  | some n => query.length < n
  | none => true

/-- The points of a field of an entry for a folded query. -/
def fieldPoints (query : Text) (field : Field) (e : Entry) : Rat :=
  Similarity.score query (fieldText field e)

/-- What a field reports for a folded query: the positions of the entries with enough points, with
these points. -/
def report (index : Index) (query : Text) (field : Field) : List (Nat × Rat) :=
  index.entries.zipIdx.filterMap fun (e, position) =>
    let points := fieldPoints query field e
    if points < index.cutoff then none else some (position, points)

/-- The match that a hit at a position stands for. -/
def match? (index : Index) (hit : Nat × Hit) : Option Match :=
  index.entries[hit.1]?.map fun e =>
    ⟨e, Binary64.nearest (hit.2.points / 100), hit.2.field, hit.1⟩

/-- The best hits that come of a report for each field. -/
def collect (index : Index) (report : Field → List (Nat × Rat)) : BestHits :=
  index.fields.foldl (fun best field => best.merge field (report field)) ∅

/-- The matches that come of a report for each field, best first. -/
def merged (index : Index) (report : Field → List (Nat × Rat)) : List Match :=
  (index.collect report).ranked.filterMap index.match?

/-- All matches of a query, best first. -/
def ranking (index : Index) (query : Text) : List Match :=
  let needle := query.folded
  if index.isTooShort needle then [] else index.merged (index.report needle)

/-- The matches of a query, best first, within a limit. -/
def search (index : Index) (query : Text) (limit : Limit) : List Match :=
  limit.apply (index.ranking query)

end Index

namespace Match

/-- The text of a match: the signature, the matching field and the score with three places. -/
def toText (m : Match) : Text :=
  m.entry.signature ++ " [" ++ m.field.key ++ ": " ++ Decimal.fixed 3 m.score ++ "]"

end Match

end NativeFinder
