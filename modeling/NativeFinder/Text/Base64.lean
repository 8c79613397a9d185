import NativeFinder.Text.Utf8

/-!
# Bytes in base 64

Bytes can be written as text: three of them as four characters of an alphabet of 64, with equals
signs in the place of what is missing at the end. `Base64.encode` writes them in lines.
`Base64.decode?` passes over characters that are not of the alphabet, and stops where equals
signs complete a group of four.
-/

namespace NativeFinder

namespace Base64

/-- The alphabet. -/
def alphabet : Text := "ABCDEFGHIJKLMNOPQRSTUVWXYZabcdefghijklmnopqrstuvwxyz0123456789+/"

/-- The character for a number below 64. -/
def digit (n : Nat) : Char := alphabet.getD n '='

/-- The characters of a group of up to three bytes. -/
def group : Bytes → Text
  | [a] => [digit (a.toNat / 4), digit (a.toNat % 4 * 16), '=', '=']
  | [a, b] =>
    [digit (a.toNat / 4), digit (a.toNat % 4 * 16 + b.toNat / 16), digit (b.toNat % 16 * 4), '=']
  | a :: b :: c :: _ =>
    [digit (a.toNat / 4), digit (a.toNat % 4 * 16 + b.toNat / 16),
      digit (b.toNat % 16 * 4 + c.toNat / 64), digit (c.toNat % 64)]
  | [] => []

/-- The characters of bytes. -/
def digits : Bytes → Text
  | a :: b :: c :: rest => group [a, b, c] ++ digits rest
  | rest => group rest

/-- The longest line. -/
def lineLength : Nat := 76

/-- A text with `newline` wherever a line is full; the first line has room for `room`
characters. -/
def broken (newline : Text) (room : Nat) : Text → Text
  | [] => []
  | c :: s =>
    match room with
    | 0 => newline ++ c :: broken newline (lineLength - 1) s
    | room + 1 => c :: broken newline room s

/-- The lines in which bytes are written, with `newline` between them. -/
def encode (newline : Text) (b : Bytes) : Text := broken newline lineLength (digits b)

/-- Reads the characters behind `count` ones of a group of four; `pads` equals signs have been
read since, and `carry` is what is left of the last character. -/
def decodeFrom? (count pads : Nat) (carry : Nat) : Text → Option Bytes
  | [] => if count = 0 then some [] else none
  | c :: s =>
    if c = '=' then
      if 2 ≤ count && 4 ≤ count + pads + 1 then some []
      else decodeFrom? count (if 2 ≤ count then pads + 1 else pads) carry s
    else
      match alphabet.idxOf? c with
      | none => decodeFrom? count pads carry s
      | some n =>
        match count with
        | 0 => decodeFrom? 1 0 n s
        | 1 => (decodeFrom? 2 0 (n % 16) s).map (UInt8.ofNat (carry * 4 + n / 16) :: ·)
        | 2 => (decodeFrom? 3 0 (n % 4) s).map (UInt8.ofNat (carry * 16 + n / 4) :: ·)
        | _ => (decodeFrom? 0 0 0 s).map (UInt8.ofNat (carry * 64 + n) :: ·)

/-- The bytes that a text writes, if its groups are complete. -/
def decode? (s : Text) : Option Bytes := decodeFrom? 0 0 0 s

end Base64

end NativeFinder
