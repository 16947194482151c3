import RpcBindings.Json.Value

/-!
# JSON numbers (SPEC §6)

A number has an optional minus, an integer without superfluous zeros, an optional fraction and an
optional exponent.  Its spelling is all that is kept of it.
-/

set_option autoImplicit false

namespace RpcBindings.Json

/-- The byte is one of `0` to `9`. -/
def isDigit (b : UInt8) : Bool := 0x30 ≤ b && b ≤ 0x39

/-- One digit or more, and what follows them. -/
def readDigits (bs : Bytes) : Option (Bytes × Bytes) :=
  match bs.takeWhile isDigit with
  | [] => none
  | digits => some (digits, bs.dropWhile isDigit)

/-- A zero alone, or digits that do not start with one. -/
def readInteger : Bytes → Option (Bytes × Bytes)
  | 0x30 :: rest => some ([0x30], rest)
  | bs => readDigits bs

/-- A point with digits behind it, or nothing. -/
def readFraction : Bytes → Option (Bytes × Bytes)
  | 0x2E :: rest =>
      match readDigits rest with
      | some (digits, rest) => some (0x2E :: digits, rest)
      | none => none
  | bs => some ([], bs)

/-- The sign of an exponent, or nothing. -/
def readSign : Bytes → Bytes × Bytes
  | 0x2B :: rest => ([0x2B], rest)
  | 0x2D :: rest => ([0x2D], rest)
  | bs => ([], bs)

/-- An exponent mark with an optional sign and digits, or nothing. -/
def readExponent : Bytes → Option (Bytes × Bytes)
  | [] => some ([], [])
  | b :: rest =>
      if b = 0x65 ∨ b = 0x45 then
        let (sign, rest) := readSign rest
        match readDigits rest with
        | some (digits, rest) => some (b :: sign ++ digits, rest)
        | none => none
      else some ([], b :: rest)

/-- A number without its sign. -/
def readUnsigned (bs : Bytes) : Option (Bytes × Bytes) :=
  match readInteger bs with
  | none => none
  | some (integer, bs) =>
      match readFraction bs with
      | none => none
      | some (fraction, bs) =>
          match readExponent bs with
          | none => none
          | some (exponent, rest) => some (integer ++ fraction ++ exponent, rest)

/-- The spelling of a number, and what follows it. -/
def readNumber : Bytes → Option (Bytes × Bytes)
  | 0x2D :: rest =>
      match readUnsigned rest with
      | some (spelling, rest) => some (0x2D :: spelling, rest)
      | none => none
  | bs => readUnsigned bs

end RpcBindings.Json
