import NativeFinder.Number.Numeral

/-!
# Literals

The parameters of a tag can be **literals**: numbers, texts and truth values, and tuples, sets and
tables of them. What they stand for is of no use here, but whether they can be evaluated is:
`isLiteral` says so.

A literal is cut into tokens, and these are read from left to right. Groups that are open lie on a
stack, and of each item only that is kept on which it depends what may follow: what kind of number
it is, and whether it can be a key. Texts with a character by its name are not taken for literals.
-/

namespace NativeFinder

namespace Literal

/-! ### Numerals -/

/-- The kinds of numbers. A whole number may be too large to be added to an imaginary one. -/
inductive Number where
  | real (isTooLarge : Bool)
  | imaginary
deriving DecidableEq, Inhabited

/-- From here on a whole number is too large for double precision. -/
def realLimit : Nat := Nat.pow 2 1024 - Nat.pow 2 970

/-- The kind of a whole number. -/
def Number.ofNat (n : Nat) : Number := .real (decide (realLimit ≤ n))

/-- The value of a digit in a base. -/
def digit? (base : Nat) (c : Char) : Option Nat :=
  let value : Nat :=
    if c.isDigit then c.toNat - '0'.toNat
    else if c.isLower then c.toNat - 'a'.toNat + 10
    else if c.isUpper then c.toNat - 'A'.toNat + 10
    else base
  if value < base then some value else none

/-- The value of digits. -/
def value? (base : Nat) (s : Text) : Option Nat :=
  s.foldlM (fun n c => (digit? base c).map (base * n + ·)) 0

/-- The value of one or more digits; a single underscore may stand between two of them. -/
def digits? (base : Nat) (s : Text) : Option Nat :=
  if (Text.splitOn '_' s).any List.isEmpty then none else value? base (s.filter (· != '_'))

/-- Whether a numeral in small letters is one with an optional point and exponent. -/
def isReal (s : Text) : Bool :=
  let isDigits (t : Text) : Bool := (digits? 10 t).isSome
  let isMantissa (t : Text) : Bool := match Text.splitOn '.' t with
    | [whole] => isDigits whole
    | [[], fraction] => isDigits fraction
    | [whole, fraction] => isDigits whole && (fraction.isEmpty || isDigits fraction)
    | _ => false
  match Text.splitOn 'e' s with
  | [mantissa] => isMantissa mantissa
  | [mantissa, exponent] => isMantissa mantissa && isDigits (Numeral.splitSign exponent).2
  | _ => false

/-- The number that digits write in a base other than ten, behind the letter of the base. -/
def inBase? (base : Nat) (s : Text) : Option Number :=
  (digits? base ((Text.dropPrefix? ['_'] s).getD s)).map .ofNat

/-- The whole number that decimal digits write; it does not begin with a zero unless it is zero. -/
def whole? (s : Text) : Option Number := do
  let n ← digits? 10 s
  if s.head? == some '0' then if n = 0 then some (.ofNat 0) else none
  else if Numeral.digitLimit < (s.filter (· != '_')).length then none
  else some (.ofNat n)

/-- Reads a numeral. -/
def numeral? (s : Text) : Option Number :=
  match s.lowerAscii with
  | '0' :: 'x' :: digits => inBase? 16 digits
  | '0' :: 'o' :: digits => inBase? 8 digits
  | '0' :: 'b' :: digits => inBase? 2 digits
  | small =>
    if small.getLast? == some 'j' then if isReal small.dropLast then some .imaginary else none
    else if small.contains '.' || small.contains 'e' then
      if isReal small then some (.real false) else none
    else whole? small

/-- Whether a character may stand in a name. -/
def isNameChar (c : Char) : Bool := c.isAlphanum || c == '_'

/-- The characters of a numeral at the start of a text. A sign belongs to them behind the `e` of an
exponent, which only a decimal numeral has. -/
def numeralRun (isDecimal : Bool) : Text → Text
  | c :: sign :: s =>
    if isDecimal && c.toLower == 'e' && (sign == '+' || sign == '-') then
      c :: sign :: numeralRun isDecimal s
    else if isNameChar c || c == '.' then c :: numeralRun isDecimal (sign :: s)
    else []
  | [c] => if isNameChar c || c == '.' then [c] else []
  | [] => []

/-! ### Tokens -/

/-- The tokens of a literal. -/
inductive Token where
  | text (isBytes : Bool)
  | number (n : Number)
  | constant
  | setName
  | mark (c : Char)
  /-- The end of a line, and whether the next one is indented. -/
  | lineEnd (isIndented : Bool)
deriving DecidableEq, Inhabited

/-- How the letters before its quotes say that a text is to be read. -/
structure TextForm where
  /-- A backslash is a character like any other. -/
  isRaw : Bool
  isBytes : Bool

/-- The letters that may stand before quotes. -/
def textForms : List (Text × TextForm) :=
  [([], ⟨false, false⟩), ("u", ⟨false, false⟩), ("r", ⟨true, false⟩), ("b", ⟨false, true⟩),
   ("br", ⟨true, true⟩), ("rb", ⟨true, true⟩)]

/-- The quotes at the start of a text. -/
def quotes? (s : Text) : Option Text :=
  ["'''".toList, "\"\"\"".toList, ['\''], ['"']].find? (·.isPrefixOf s)

/-- What stands before the closing quotes. A line may end only between three of them, or behind a
backslash. -/
def body? (quotes : Text) : Text → Option Text
  | '\\' :: c :: s => (body? quotes s).map fun body => '\\' :: c :: body
  | c :: s =>
    if quotes.isPrefixOf (c :: s) then some []
    else if c = '\n' && quotes.length = 1 then none
    else (body? quotes s).map (c :: ·)
  | [] => none

/-- The value of so many hexadecimal digits at the start of a text. -/
def hexadecimal? (count : Nat) (s : Text) : Option Nat :=
  if (s.take count).length = count then value? 16 (s.take count) else none

/-- Whether the escapes in a text can be read. -/
def hasGoodEscapes (isBytes : Bool) : Text → Bool
  | '\\' :: c :: s =>
    (match c with
      | 'x' => (hexadecimal? 2 s).isSome
      | 'u' => isBytes || (hexadecimal? 4 s).isSome
      | 'U' => isBytes || (hexadecimal? 8 s).any (· ≤ 0x10FFFF)
      | 'N' => isBytes
      | _ => true) && hasGoodEscapes isBytes s
  | _ :: s => hasGoodEscapes isBytes s
  | [] => true

/-- Whether the body of a text can be read. -/
def TextForm.admits (form : TextForm) (body : Text) : Bool :=
  (form.isRaw || hasGoodEscapes form.isBytes body) && (!form.isBytes || body.all (·.toNat < 128))

/-- The tokens that are words. -/
def words : List (Text × Token) :=
  [("True", .constant), ("False", .constant), ("None", .constant), ("set", .setName)]

/-- Reads a word, or a text with the letters before it, and gives the number of its characters. -/
def wordOrText? (s : Text) : Option (Token × Nat) := do
  let word := s.takeWhile isNameChar
  match quotes? (s.drop word.length) with
  | none => some (← words.lookup word, word.length)
  | some quotes =>
    let form ← textForms.lookup (Text.lowerAscii word)
    let body ← body? quotes (s.drop (word.length + quotes.length))
    if form.admits body then
      some (.text form.isBytes, word.length + body.length + 2 * quotes.length)
    else none

/-- Whether a character is a blank between tokens. -/
def isGap (c : Char) : Bool := [' ', '\t', '\x0c'].contains c

/-- Whether a line that is neither empty nor a comment begins with blanks. A form feed goes back to
the margin. -/
def isIndented (s : Text) : Bool :=
  match s.dropWhile isGap with
  | [] | '\n' :: _ | '#' :: _ => false
  | _ => (s.takeWhile isGap).getLast?.any (· != '\x0c')

/-- Reads what a text begins with, and gives the number of its characters: a token, or blanks and
the like, which are none. -/
def piece? : Text → Option (Option Token × Nat)
  | '\\' :: '\n' :: _ => some (none, 2)
  | '.' :: '.' :: '.' :: _ => some (some .constant, 3)
  | '\n' :: s => some (some (.lineEnd (isIndented s)), 1)
  | '#' :: s => some (none, 1 + (s.takeWhile (· != '\n')).length)
  | c :: s =>
    if isGap c then some (none, 1)
    else if "()\x7b\x7d,:+-".toList.contains c then some (some (.mark c), 1)
    else if c.isDigit || (c == '.' && s.head?.any Char.isDigit) then
      let run := numeralRun (c != '0' || s.head?.all (·.toLower != 'x')) (c :: s)
      (numeral? run).map fun n => (some (.number n), run.length)
    else (wordOrText? (c :: s)).map fun found => (some found.1, found.2)
  | [] => none

/-- The tokens of a text. -/
def tokens? (s : Text) : Option (List Token) :=
  match s with
  | [] => some []
  | c :: t => do
    let (token, length) ← piece? (c :: t)
    let rest ← tokens? (t.drop (length - 1))
    some (token.toList ++ rest)
termination_by s.length
decreasing_by
  simp only [List.length_drop, List.length_cons]
  omega

/-! ### Items and groups -/

/-- What has been read of an item. -/
inductive Item where
  | empty
  /-- A sign, which a number has to follow. -/
  | sign
  /-- A text, which other texts may follow. -/
  | text (isBytes : Bool)
  | number (n : Number) (isSigned : Bool)
  /-- A real number and a sign, which an imaginary number has to follow. -/
  | sum (isTooLarge : Bool)
  | setName
  | value (canBeKey : Bool)
deriving DecidableEq, Inhabited

namespace Item

/-- Puts an operand behind what has been read of an item. -/
def add? : Item → Item → Option Item
  | .empty, operand => some operand
  | .text isBytes, .text isBytes' => if isBytes = isBytes' then some (.text isBytes) else none
  | .sign, .number n false => some (.number n true)
  | .sum false, .number .imaginary false => some (.value true)
  | _, _ => none

/-- Puts a sign behind what has been read of an item. -/
def addSign? : Item → Option Item
  | .empty => some .sign
  | .number (.real isTooLarge) _ => some (.sum isTooLarge)
  | _ => none

/-- Whether an item that is complete can be a key. -/
def canBeKey? : Item → Option Bool
  | .text _ | .number .. => some true
  | .value canBeKey => some canBeKey
  | _ => none

end Item

/-- What an item stands in. -/
inductive GroupKind where
  | whole
  | parentheses
  /-- The parentheses behind the word for a set. -/
  | call
  | braces
deriving DecidableEq, Inhabited

/-- The form of a group: with nothing but one item, or with several items, or a table. -/
inductive GroupForm where
  | single
  | several
  | table
deriving DecidableEq, Inhabited

/-- A group that is open. -/
structure Group where
  kind : GroupKind
  form : GroupForm := .single
  /-- Whether the key of the item has been read. -/
  hasKey : Bool := false
  item : Item := .empty
  /-- Whether all items up to the last comma can be keys. -/
  canBeKey : Bool := true
deriving DecidableEq, Inhabited

namespace Group

/-- Ends an item. -/
def comma? (g : Group) : Option Group := do
  let canBeKey ← g.item.canBeKey?
  match g.kind, g.form with
  | .call, _ => none
  | .braces, .table => if g.hasKey then some { g with hasKey := false, item := .empty } else none
  | .braces, _ => if canBeKey then some { g with form := .several, item := .empty } else none
  | _, _ =>
    some { g with form := .several, item := .empty, canBeKey := g.canBeKey && canBeKey }

/-- Ends the key of an item. -/
def colon? (g : Group) : Option Group :=
  if g.kind = .braces && g.form != .several && !g.hasKey && g.item.canBeKey? == some true then
    some { g with form := .table, hasKey := true, item := .empty }
  else none

/-- Ends the last item, if there is one behind the last comma. -/
def ended? (g : Group) : Option Group :=
  if g.item = .empty && !g.hasKey then some g else g.comma?

/-- What a group is when it is closed. -/
def closed? (g : Group) : Option Item :=
  match g.kind, g.form, g.item with
  | .whole, _, _ => none
  | .call, _, .empty => some (.value false)
  | .call, _, _ => none
  | .parentheses, .single, .number n isSigned => some (.number n isSigned)
  | .parentheses, .single, .setName => some .setName
  | .parentheses, .single, .value canBeKey => some (.value canBeKey)
  | .parentheses, _, _ => g.ended?.map fun g => .value g.canBeKey
  | .braces, _, _ => g.ended?.map fun _ => .value false

end Group

/-! ### Reading -/

/-- The state of the reading: the innermost open group, and the others from the inside out. -/
structure Reading where
  current : Group := { kind := .whole }
  outer : List Group := []
  /-- Whether the line of the literal is over. -/
  isOver : Bool := false
deriving DecidableEq, Inhabited

namespace Reading

/-- Puts an operand behind the item. -/
def add? (r : Reading) (operand : Item) : Option Reading :=
  (r.current.item.add? operand).map fun item => { r with current := { r.current with item } }

/-- The most groups that can be open. -/
def depthLimit : Nat := 200

/-- Opens a group. -/
def open? (r : Reading) (kind : GroupKind) : Option Reading :=
  if r.outer.length < depthLimit then
    some { r with current := { kind }, outer := r.current :: r.outer }
  else none

/-- Closes the group that is open. -/
def close? (r : Reading) : Option Reading := do
  let item ← r.current.closed?
  match r.outer with
  | group :: outer => add? { r with current := group, outer } item
  | [] => none

/-- Reads one of the marks between operands. -/
def mark? (r : Reading) (c : Char) : Option Reading :=
  match c with
  | '(' =>
    if r.current.item = .setName then
      open? { r with current := { r.current with item := .empty } } .call
    else r.open? .parentheses
  | ')' => if r.current.kind = .braces then none else r.close?
  | ',' => r.current.comma?.map fun current => { r with current }
  | ':' => r.current.colon?.map fun current => { r with current }
  | '+' | '-' =>
    r.current.item.addSign?.map fun item => { r with current := { r.current with item } }
  | _ =>
    if c = '\x7b' then r.open? .braces
    else if r.current.kind = .braces then r.close?
    else none

/-- Reads a token. Ends of lines count only outside of all groups: a literal is on one line, and not
indented. -/
def step? (r : Reading) (token : Token) : Option Reading :=
  match token with
  | .lineEnd isIndented =>
    if !r.outer.isEmpty then some r
    else if r != {} then some { r with isOver := true }
    else if isIndented then none
    else some r
  | token =>
    if r.isOver then none
    else match token with
      | .text isBytes => r.add? (.text isBytes)
      | .number n => r.add? (.number n false)
      | .constant => r.add? (.value true)
      | .setName => r.add? .setName
      | .mark c => r.mark? c
      | .lineEnd _ => none

/-- Whether a literal is complete. -/
def isComplete (r : Reading) : Bool :=
  r.outer.isEmpty && r.current != { kind := .whole } && r.current.ended?.isSome

end Reading

end Literal

/-- Whether a text is a literal. -/
def isLiteral (s : Text) : Bool :=
  !s.contains '\x00' && ((Literal.tokens? s.normalizeNewlines).bind fun tokens =>
    tokens.foldlM Literal.Reading.step? {}).any Literal.Reading.isComplete

namespace Markup

/-- Whether the parameters of a handler can be evaluated. They are those of a function, in
parentheses behind its name, or stand alone. -/
def areParameters (parameters : Text) : Bool :=
  let s := parameters.trim
  match s.dropWhile fun c => Character.isWord c || c == '.' with
  | [] => true
  | '(' :: rest =>
    if rest.getLast? == some ')' && !rest.contains '\n' then isLiteral ('(' :: rest)
    else isLiteral s
  | _ => isLiteral s

end Markup

end NativeFinder
