import NativeFinder.Text.Basic

/-!
# UTF-8

Bytes are read as UTF-8 in two ways. The strict reading stops at the first sequence that is
not well formed and says where it is and what is wrong with it; the lenient one puts the
replacement character in its place and goes on behind it. In both, the faulty sequence is
the longest one that begins like a well-formed sequence, or the first byte alone.

The byte after `E0`, `ED`, `F0` and `F4` has a narrower range than other continuation bytes,
which keeps out overlong forms, surrogates, and what lies beyond the last character.
-/

namespace NativeFinder

/-- A sequence of bytes. -/
abbrev Bytes := List UInt8

namespace Utf8

/-- What is wrong with a sequence. -/
inductive Fault where
  | invalidStart
  | invalidContinuation
  | unexpectedEnd
deriving DecidableEq, Inhabited

/-- The wording of a fault. -/
def Fault.message : Fault → Text
  | invalidStart => "invalid start byte"
  | invalidContinuation => "invalid continuation byte"
  | unexpectedEnd => "unexpected end of data"

/-- The first step of a reading: a character and the rest, or the length of the faulty
sequence and the fault. -/
inductive Head where
  | char (c : Char) (rest : Bytes)
  | bad (length : Nat) (fault : Fault)

/-- Whether a byte continues a sequence. -/
def isContinuation (b : UInt8) : Bool := 0x80 ≤ b.toNat && b.toNat ≤ 0xBF

/-- The last six bits of a byte. -/
def low (b : UInt8) : Nat := b.toNat % 0x40

/-- Whether `b` may follow the first byte of a sequence of three or four. -/
def mayFollow (first b : UInt8) : Bool :=
  let n := b.toNat
  match first.toNat with
  | 0xE0 => 0xA0 ≤ n && n ≤ 0xBF
  | 0xED => 0x80 ≤ n && n ≤ 0x9F
  | 0xF0 => 0x90 ≤ n && n ≤ 0xBF
  | 0xF4 => 0x80 ≤ n && n ≤ 0x8F
  | _ => isContinuation b

/-- Reads the second byte of a sequence of two. -/
def readTwo (first : UInt8) : Bytes → Head
  | [] => .bad 1 .unexpectedEnd
  | b :: rest =>
    if isContinuation b then .char (Char.ofNat (first.toNat % 0x20 * 0x40 + low b)) rest
    else .bad 1 .invalidContinuation

/-- Reads the other bytes of a sequence of three. -/
def readThree (first : UInt8) : Bytes → Head
  | [] => .bad 1 .unexpectedEnd
  | b :: rest =>
    if !mayFollow first b then .bad 1 .invalidContinuation
    else match rest with
      | [] => .bad 2 .unexpectedEnd
      | c :: rest =>
        if isContinuation c then
          .char (Char.ofNat ((first.toNat % 0x10 * 0x40 + low b) * 0x40 + low c)) rest
        else .bad 2 .invalidContinuation

/-- Reads the other bytes of a sequence of four. -/
def readFour (first : UInt8) : Bytes → Head
  | [] => .bad 1 .unexpectedEnd
  | b :: rest =>
    if !mayFollow first b then .bad 1 .invalidContinuation
    else match rest with
      | [] => .bad 2 .unexpectedEnd
      | c :: rest =>
        if !isContinuation c then .bad 2 .invalidContinuation
        else match rest with
          | [] => .bad 3 .unexpectedEnd
          | d :: rest =>
            if isContinuation d then
              .char (Char.ofNat
                (((first.toNat % 0x08 * 0x40 + low b) * 0x40 + low c) * 0x40 + low d)) rest
            else .bad 3 .invalidContinuation

/-- Reads one character after its first byte. -/
def readHead (first : UInt8) (rest : Bytes) : Head :=
  let n := first.toNat
  if n < 0x80 then .char (Char.ofNat n) rest
  else if 0xC2 ≤ n && n ≤ 0xDF then readTwo first rest
  else if 0xE0 ≤ n && n ≤ 0xEF then readThree first rest
  else if 0xF0 ≤ n && n ≤ 0xF4 then readFour first rest
  else .bad 1 .invalidStart

/-! ### Strict reading -/

/-- Where and why bytes are not well formed. -/
structure DecodeError where
  /-- The position of the first faulty byte. -/
  position : Nat
  /-- The first faulty byte. -/
  byte : UInt8
  /-- The number of faulty bytes. -/
  length : Nat
  fault : Fault
deriving DecidableEq, Inhabited

/-- The wording of the errors. -/
def DecodeError.message (e : DecodeError) : Text :=
  let place : Text :=
    if e.length = 1 then
      "byte 0x" ++ Text.padHex 2 e.byte.toNat ++ " in position " ++ Text.ofNat e.position
    else
      "bytes in position " ++ Text.ofNat e.position ++ "-" ++
        Text.ofNat (e.position + e.length - 1)
  "'utf-8' codec can't decode " ++ place ++ ": " ++ e.fault.message

/-- Reads bytes from a position on; `fuel` bounds the number of characters. -/
def decodeFrom (position : Nat) : Nat → Bytes → Except DecodeError Text
  | 0, _ => .ok []
  | _ + 1, [] => .ok []
  | fuel + 1, b :: rest =>
    match readHead b rest with
    | .bad length fault => .error ⟨position, b, length, fault⟩
    | .char c after =>
      (decodeFrom (position + (rest.length + 1 - after.length)) fuel after).map (c :: ·)

/-- The text of well-formed bytes. -/
def decode (bytes : Bytes) : Except DecodeError Text := decodeFrom 0 bytes.length bytes

/-! ### Lenient reading -/

/-- Stands for a faulty sequence. -/
def replacement : Char := Char.ofNat 0xFFFD

/-- Reads bytes with replacements; `fuel` bounds the number of characters. -/
def decodeLossyFrom : Nat → Bytes → Text
  | 0, _ => []
  | _ + 1, [] => []
  | fuel + 1, b :: rest =>
    match readHead b rest with
    | .bad length _ => replacement :: decodeLossyFrom fuel ((b :: rest).drop length)
    | .char c after => c :: decodeLossyFrom fuel after

/-- The text of bytes, with each faulty sequence replaced. -/
def decodeLossy (bytes : Bytes) : Text := decodeLossyFrom bytes.length bytes

/-- The text of bytes of which each one is a character. -/
def decodeLatin1 (bytes : Bytes) : Text := bytes.map fun b => Char.ofNat b.toNat

/-! ### Writing -/

/-- The bytes of a character. -/
def encodeChar (c : Char) : Bytes :=
  let n := c.toNat
  let continuation (m : Nat) : UInt8 := (0x80 + m % 0x40).toUInt8
  if n < 0x80 then [n.toUInt8]
  else if n < 0x800 then [(0xC0 + n / 0x40).toUInt8, continuation n]
  else if n < 0x10000 then
    [(0xE0 + n / 0x1000).toUInt8, continuation (n / 0x40), continuation n]
  else
    [(0xF0 + n / 0x40000).toUInt8, continuation (n / 0x1000), continuation (n / 0x40),
      continuation n]

/-- The bytes of a text. -/
def encode (s : Text) : Bytes := s.flatMap encodeChar

end Utf8

end NativeFinder
