import NativeFinder.Number.Numeral
import NativeFinder.Text.Lower

/-!
# Style names

A tag names a style: attributes such as `bold`, colours, and links, separated by blanks. Two
names mean the same style if they have the same **canonical form**: attributes in a fixed
order under their full names, then the colour, then the colour of the background after `on`,
then the link. A name that is no style is its own canonical form, trimmed and in small
letters.
-/

namespace NativeFinder

namespace Markup

/-- The attributes of a style in the order of the canonical form. -/
def attributes : List Text :=
  ["bold", "dim", "italic", "underline", "blink", "blink2", "reverse", "conceal", "strike",
   "underline2", "frame", "encircle", "overline"]

/-- The short names of attributes. -/
def attributeAliases : List (Text × Text) :=
  [("b", "bold"), ("d", "dim"), ("i", "italic"), ("u", "underline"), ("r", "reverse"),
   ("c", "conceal"), ("s", "strike"), ("uu", "underline2"), ("o", "overline")]

/-- The attribute that a word names. -/
def attribute? (word : Text) : Option Text :=
  if attributes.contains word then some word else attributeAliases.lookup word

/-- The names of colours that come in a dull and a bright form. -/
def basicColours : List Text :=
  ["black", "red", "green", "yellow", "blue", "magenta", "cyan", "white"]

/-- The names of other colours without a number. -/
def plainColours : List String :=
  ["navy_blue", "dark_blue", "dark_green", "dark_cyan", "light_sea_green", "dark_turquoise",
   "medium_spring_green", "dark_red", "blue_violet", "purple", "steel_blue", "cornflower_blue",
   "cadet_blue", "medium_turquoise", "dark_magenta", "dark_violet", "light_slate_grey",
   "light_slate_gray", "medium_purple", "light_slate_blue", "dark_sea_green", "light_green",
   "medium_violet_red", "indian_red", "medium_orchid", "dark_goldenrod", "rosy_brown", "dark_khaki",
   "light_steel_blue", "green_yellow", "orchid", "violet", "tan", "hot_pink", "dark_orange",
   "light_coral", "sandy_brown"]

/-- The names of colours that come in shades, with the numbers of the shades. -/
def shadedColours : List (String × List Nat) :=
  [("blue", [1, 3]), ("deep_sky_blue", [1, 2, 3, 4]), ("dodger_blue", [1, 2, 3]),
   ("green", [1, 3, 4]), ("spring_green", [1, 2, 3, 4]), ("turquoise", [2, 4]), ("cyan", [1, 2, 3]),
   ("deep_pink", [1, 2, 3, 4]), ("purple", [3, 4]), ("orange", [1, 3, 4]),
   ("medium_purple", [1, 2, 3, 4]), ("slate_blue", [1, 3]), ("royal_blue", [1]),
   ("chartreuse", [1, 2, 3, 4]), ("dark_sea_green", [1, 2, 3, 4]), ("pale_turquoise", [1, 4]),
   ("steel_blue", [1, 3]), ("sky_blue", [1, 2, 3]), ("pale_green", [1, 3]),
   ("sea_green", [1, 2, 3]), ("aquamarine", [1, 3]), ("dark_slate_gray", [1, 2, 3]),
   ("light_pink", [1, 3, 4]), ("plum", [1, 2, 3, 4]), ("yellow", [1, 2, 3, 4]), ("wheat", [1, 4]),
   ("dark_olive_green", [1, 2, 3]), ("light_sky_blue", [1, 3]), ("red", [1, 3]),
   ("magenta", [1, 2, 3]), ("dark_orange", [3]), ("indian_red", [1]), ("hot_pink", [2, 3]),
   ("medium_orchid", [1, 3]), ("light_salmon", [1, 3]), ("gold", [1, 3]), ("navajo_white", [1, 3]),
   ("light_steel_blue", [1, 3]), ("light_cyan", [1, 3]), ("orchid", [1, 2]), ("pink", [1, 3]),
   ("light_goldenrod", [1, 2, 3]), ("misty_rose", [1, 3]), ("thistle", [1, 3]), ("khaki", [1, 3]),
   ("light_yellow", [3]), ("honeydew", [2]), ("orange_red", [1]), ("salmon", [1]),
   ("pale_violet_red", [1]), ("cornsilk", [1])]

/-- The shades of grey, by how bright they are. -/
def greys : List Nat :=
  [0, 3, 7, 11, 15, 19, 23, 27, 30, 35, 37, 39, 42, 46, 50, 53, 54, 58, 62, 63, 66, 69, 70, 74, 78,
   82, 84, 85, 89, 93, 100]

/-- The names of colours. -/
def colours : List Text :=
  let shades := shadedColours ++ [("grey", greys), ("gray", greys)]
  "default".toList :: basicColours ++ basicColours.map ("bright_".toList ++ ·) ++
    plainColours.map String.toList ++
      shades.flatMap fun (name, numbers) => numbers.map fun n => name.toList ++ Text.ofNat n

/-- Why words name no style. -/
inductive StyleError where
  | unknown
  /-- A part of a colour is no number. -/
  | part (error : Numeral.IntError)
deriving DecidableEq, Inhabited

/-- The text between `opening` and a closing parenthesis at the end. -/
def inParentheses? (opening word : Text) : Option Text :=
  match (Text.dropPrefix? (opening ++ ['(']) word).map List.reverse with
  | some (')' :: inner) => some inner.reverse
  | _ => none

/-- Whether a text is a number of one to three digits that is at most 255. -/
def isColourNumber (s : Text) : Bool :=
  1 ≤ s.length && s.length ≤ 3 && s.all Char.isDigit && Numeral.ofDigits s ≤ 255

/-- Checks the red, green and blue parts of a colour: three numbers that are at most 255. -/
def checkParts (s : Text) : Except StyleError Unit :=
  match Text.splitOn ',' s with
  | [red, green, blue] => do
    let parts ← [red, green, blue].mapM fun part => (Numeral.parseInt part).mapError .part
    if parts.all (· ≤ 255) then .ok () else .error .unknown
  | _ => .error .unknown

/-- Checks that a word in small letters is a colour: a name, six hexadecimal digits, a number, or
the parts of red, green and blue. -/
def checkColour (word : Text) : Except StyleError Unit :=
  let isHex (c : Char) : Bool := c.isDigit || ('a' ≤ c && c ≤ 'f')
  let isHexColour : Bool := match word with
    | '#' :: digits => digits.length == 6 && digits.all isHex
    | _ => false
  if colours.contains word || isHexColour ||
    (inParentheses? "color" word).any isColourNumber then .ok ()
  else match inParentheses? "rgb" word with
    | some parts =>
      if !parts.isEmpty && parts.all (fun c => c == ',' || (Character.decimalDigit? c).isSome) then
        checkParts parts
      else .error .unknown
    | none => .error .unknown

/-- The parts of a style. -/
structure Style where
  /-- Attributes that are named, each switched on or off. -/
  attributes : List (Text × Bool) := []
  colour : Option Text := none
  background : Option Text := none
  link : Option Text := none
deriving DecidableEq

namespace Style

/-- Switches an attribute; the last word on it counts. -/
def switch (style : Style) (name : Text) (on : Bool) : Style :=
  { style with attributes := (name, on) :: style.attributes.filter fun a => a.1 != name }

/-- Reads the words of a style. -/
def ofWords (style : Style) : List Text → Except StyleError Style
  | [] => .ok style
  | word :: rest =>
    let small := word.lower
    if small = ("on" : Text) then
      match rest with
      | colour :: rest => do
        checkColour colour.lower
        ofWords { style with background := some colour.lower } rest
      | [] => .error .unknown
    else if small = ("not" : Text) then
      match rest with
      | name :: rest =>
        match attribute? name with
        | some a => ofWords (style.switch a false) rest
        | none => .error .unknown
      | [] => .error .unknown
    else if small = ("link" : Text) then
      match rest with
      | url :: rest => ofWords { style with link := some url } rest
      | [] => .error .unknown
    else
      match attribute? small with
      | some a => ofWords (style.switch a true) rest
      | none => do
        checkColour small
        ofWords { style with colour := some small } rest

/-- The words of the canonical form. -/
def words (style : Style) : List Text :=
  let named := Markup.attributes.filterMap fun a =>
    (style.attributes.lookup a).map fun on => if on then a else "not ".toList ++ a
  named ++ style.colour.toList ++ (style.background.toList.flatMap fun c => ["on".toList, c]) ++
    (style.link.toList.flatMap fun l => ["link".toList, l])

end Style

/-- The words of a text: what stands between its blanks. -/
def wordsOf (s : Text) : List Text :=
  (s.splitBy fun a b => Character.isBlank a == Character.isBlank b).filter fun word =>
    !(word.head?.map Character.isBlank).getD true

/-- The canonical form of a style name. There is none if a part of a colour is no number. -/
def canonicalStyle (name : Text) : Except Numeral.IntError Text :=
  match Style.ofWords {} (wordsOf name) with
  | .ok style =>
    match style.words with
    | [] => .ok "none"
    | words => .ok (Text.join [' '] words)
  | .error .unknown => .ok name.trim.lower
  | .error (.part e) => .error e

end Markup

end NativeFinder
