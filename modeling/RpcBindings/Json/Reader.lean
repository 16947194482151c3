import RpcBindings.Json.Text
import RpcBindings.Json.Number

/-!
# Reading JSON (SPEC §6)

A JSON text is one value with blanks around it.  Arrays and objects nest without limit.  Each value
inside another starts behind at least one byte of it, so the length of the text bounds the depth of
the recursion.
-/

set_option autoImplicit false

namespace RpcBindings.Json

/-- The blanks of JSON: space, tab, line feed and carriage return. -/
def isBlank (b : UInt8) : Bool := b == 0x20 || b == 0x09 || b == 0x0A || b == 0x0D

/-- What follows the blanks at the front. -/
def skipBlanks (bs : Bytes) : Bytes := bs.dropWhile isBlank

/-- A value that is spelled by a word, and what follows it. -/
def readWord (word : Bytes) (v : Json) (bs : Bytes) : Option (Json × Bytes) :=
  match Bytes.after? word bs with
  | some rest => some (v, rest)
  | none => none

/-- A value that is neither array nor object, and what follows it. -/
def readScalar : Bytes → Option (Json × Bytes)
  | 0x22 :: rest =>
      match readString rest with
      | some (text, rest) => some (.string text, rest)
      | none => none
  | 0x6E :: rest => readWord "ull" .null rest
  | 0x74 :: rest => readWord "rue" (.bool true) rest
  | 0x66 :: rest => readWord "alse" (.bool false) rest
  | bs =>
      match readNumber bs with
      | some (spelling, rest) => some (.number spelling, rest)
      | none => none

/-- The key of a member with the colon behind it, and what follows. -/
def readKey (bs : Bytes) : Option (Bytes × Bytes) :=
  match skipBlanks bs with
  | 0x22 :: rest =>
      match readString rest with
      | none => none
      | some (key, rest) =>
          match skipBlanks rest with
          | 0x3A :: rest => some (key, rest)
          | _ => none
  | _ => none

mutual

/-- The value at the front, and what follows it.  Nothing is read deeper than `depth`. -/
def readValue : Nat → Bytes → Option (Json × Bytes)
  | 0, _ => none
  | depth + 1, bs =>
      match skipBlanks bs with
      | 0x5B :: rest =>
          match skipBlanks rest with
          | 0x5D :: rest => some (.array [], rest)
          | rest =>
              match readItems depth rest with
              | some (items, rest) => some (.array items, rest)
              | none => none
      | 0x7B :: rest =>
          match skipBlanks rest with
          | 0x7D :: rest => some (.object [], rest)
          | rest =>
              match readMembers depth rest with
              | some (members, rest) => some (.object members, rest)
              | none => none
      | bs => readScalar bs

/-- The items of an array up to its closing bracket, at least one. -/
def readItems : Nat → Bytes → Option (List Json × Bytes)
  | 0, _ => none
  | depth + 1, bs =>
      match readValue depth bs with
      | none => none
      | some (v, rest) =>
          match skipBlanks rest with
          | 0x5D :: rest => some ([v], rest)
          | 0x2C :: rest =>
              match readItems depth rest with
              | some (items, rest) => some (v :: items, rest)
              | none => none
          | _ => none

/-- The members of an object up to its closing brace, at least one. -/
def readMembers : Nat → Bytes → Option (Members × Bytes)
  | 0, _ => none
  | depth + 1, bs =>
      match readKey bs with
      | none => none
      | some (key, rest) =>
          match readValue depth rest with
          | none => none
          | some (v, rest) =>
              match skipBlanks rest with
              | 0x7D :: rest => some ([(key, v)], rest)
              | 0x2C :: rest =>
                  match readMembers depth rest with
                  | some (members, rest) => some ((key, v) :: members, rest)
                  | none => none
              | _ => none

end

/-- The value of a JSON text. -/
def parse? (bs : Bytes) : Option Json :=
  match readValue (2 * bs.length + 2) bs with
  | some (v, rest) => if (skipBlanks rest).isEmpty then some v else none
  | none => none

end RpcBindings.Json
