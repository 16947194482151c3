import RpcBindings.Json.Value
import RpcBindings.Text.Utf8

/-!
# JSON strings (SPEC §6)

The inside of a JSON string: bytes that stand for themselves, escapes of one letter, and code units
written with four hexadecimal digits.  Bytes from 128 on are taken as they are.  Two code units in a
row of which the first is a surrogate count as one character, the replacement character if they are
no pair; a surrogate with no code unit behind it is the replacement character too.
-/

set_option autoImplicit false

namespace RpcBindings.Json

/-- What a JSON string is made of. -/
inductive Part where
  | byte (b : UInt8)
  | unit (n : Nat)
  deriving DecidableEq, Repr, Inhabited

/-- The value of a hexadecimal digit. -/
def hexDigit? (b : UInt8) : Option Nat :=
  if 0x30 ≤ b ∧ b ≤ 0x39 then some (b.toNat - 0x30)
  else if 0x41 ≤ b ∧ b ≤ 0x46 then some (b.toNat - 0x37)
  else if 0x61 ≤ b ∧ b ≤ 0x66 then some (b.toNat - 0x57)
  else none

/-- The value of four hexadecimal digits. -/
def hexUnit? (a b c d : UInt8) : Option Nat :=
  match hexDigit? a, hexDigit? b, hexDigit? c, hexDigit? d with
  | some a, some b, some c, some d => some (((a * 16 + b) * 16 + c) * 16 + d)
  | _, _, _, _ => none

/-- The byte that a backslash and a letter stand for. -/
def escaped? (b : UInt8) : Option UInt8 :=
  if b = 0x22 then some 0x22
  else if b = 0x5C then some 0x5C
  else if b = 0x2F then some 0x2F
  else if b = 0x62 then some 0x08
  else if b = 0x66 then some 0x0C
  else if b = 0x6E then some 0x0A
  else if b = 0x72 then some 0x0D
  else if b = 0x74 then some 0x09
  else none

/-- Adds a part in front of what was read behind it. -/
def consPart (p : Part) (read : Option (List Part × Bytes)) : Option (List Part × Bytes) :=
  match read with
  | some (ps, rest) => some (p :: ps, rest)
  | none => none

/-- The parts up to the closing quote, and what follows it.  A control byte has no place in a
string. -/
def readParts : Bytes → Option (List Part × Bytes)
  | [] => none
  | b :: rest =>
      if b = 0x22 then some ([], rest)
      else if b = 0x5C then
        match rest with
        | [] => none
        | e :: rest =>
            if e = 0x75 then
              match rest with
              | h₁ :: h₂ :: h₃ :: h₄ :: rest =>
                  match hexUnit? h₁ h₂ h₃ h₄ with
                  | some n => consPart (.unit n) (readParts rest)
                  | none => none
              | _ => none
            else
              match escaped? e with
              | some c => consPart (.byte c) (readParts rest)
              | none => none
      else if b < 0x20 then none
      else consPart (.byte b) (readParts rest)

/-- The code unit is half of a surrogate pair. -/
def isSurrogate (n : Nat) : Bool := 0xD800 ≤ n && n < 0xE000

/-- The character of two code units, the replacement character if they are no surrogate pair. -/
def pairChar (high low : Nat) : Char :=
  if high < 0xDC00 ∧ 0xDC00 ≤ low ∧ low < 0xE000 then
    Char.ofNat (0x10000 + (high - 0xD800) * 0x400 + (low - 0xDC00))
  else Utf8.replacement

/-- The bytes that the parts of a string stand for. -/
def unescape : List Part → Bytes
  | [] => []
  | .byte b :: rest => b :: unescape rest
  | .unit n :: rest =>
      if isSurrogate n then
        match rest with
        | .unit m :: rest => String.utf8EncodeChar (pairChar n m) ++ unescape rest
        | rest => String.utf8EncodeChar Utf8.replacement ++ unescape rest
      else String.utf8EncodeChar (Char.ofNat n) ++ unescape rest

/-- The text of a string whose opening quote has been read, and what follows its closing quote. -/
def readString (bs : Bytes) : Option (Bytes × Bytes) :=
  match readParts bs with
  | some (parts, rest) => some (unescape parts, rest)
  | none => none

end RpcBindings.Json
