import NativeFinder.Text.Basic

/-!
# Quoted text

The form in which a message quotes a text: between single quotes, with the quotes, the
backslashes and the characters that do not print written as escapes. A text that holds a
single quote and no double quote is put between double quotes instead.
-/

namespace NativeFinder

namespace Text

/-- Code points that do not print, beyond ASCII: controls, format characters, and the spaces
other than the plain one. -/
def unprintableRanges : List (Nat × Nat) :=
  [(0x7F, 0xA0), (0xAD, 0xAD), (0x600, 0x605), (0x61C, 0x61C), (0x6DD, 0x6DD), (0x70F, 0x70F),
   (0x1680, 0x1680), (0x180E, 0x180E), (0x2000, 0x200F), (0x2028, 0x202F), (0x205F, 0x206F),
   (0x3000, 0x3000), (0xE000, 0xF8FF), (0xFEFF, 0xFEFF), (0xFFF0, 0xFFFB),
   (0xE0000, 0xE00FF), (0xE01F0, 0x10FFFF)]

/-- The escape of one character inside quotes of the kind `quote`. -/
def quoteChar (quote c : Char) : Text :=
  let n := c.toNat
  if c = quote || c = '\\' then ['\\', c]
  else if c = '\n' then "\\n"
  else if c = '\r' then "\\r"
  else if c = '\t' then "\\t"
  else if n < 0x20 then "\\x" ++ padHex 2 n
  else if Character.inRanges unprintableRanges n then
    if n < 0x100 then "\\x" ++ padHex 2 n
    else if n < 0x10000 then "\\u" ++ padHex 4 n
    else "\\U" ++ padHex 8 n
  else [c]

/-- The text between quotes, with escapes. -/
def quoted (s : Text) : Text :=
  let quote := if '\'' ∈ s ∧ '"' ∉ s then '"' else '\''
  quote :: s.flatMap (quoteChar quote) ++ [quote]

end Text

end NativeFinder
