import RpcBindings.Text.Bytes

/-!
# Characters in byte strings

A byte string falls into pieces from the left: a well-formed UTF-8 sequence is one character, and a
byte that starts none is a piece of its own.  Read as characters, such a stray byte counts as the
replacement character.  Every byte string has a reading, and the reading of a character's encoding
is that character.
-/

set_option autoImplicit false

namespace RpcBindings.Utf8

/-- What a byte string holds at a position: a character, or a byte that is part of none. -/
inductive Piece where
  | char (c : Char)
  | stray (b : UInt8)
  deriving DecidableEq, Repr, Inhabited

/-- The character that stands for a stray byte. -/
def replacement : Char := Char.ofNat 0xFFFD

/-- The character a piece is read as. -/
def Piece.rune : Piece → Char
  | .char c => c
  | .stray _ => replacement

/-! ## Encoding -/

/-- The UTF-8 bytes of characters. -/
def encode (cs : List Char) : Bytes := cs.flatMap String.utf8EncodeChar

@[simp] theorem encode_nil : encode [] = [] := rfl

@[simp] theorem encode_cons (c : Char) (cs : List Char) :
    encode (c :: cs) = String.utf8EncodeChar c ++ encode cs := rfl

@[simp] theorem encode_append (cs ds : List Char) : encode (cs ++ ds) = encode cs ++ encode ds := by
  simp [encode]

/-! ## Decoding -/

/-- The low six bits of a continuation byte (`10xxxxxx`). -/
def tail? (b : UInt8) : Option Nat :=
  if 0x80 ≤ b ∧ b < 0xC0 then some (b.toNat - 0x80) else none

/-- The value of consecutive continuation bytes after the bits `high`. -/
def tails? (high : Nat) : Nat → Bytes → Option Nat
  | 0, _ => some high
  | _ + 1, [] => none
  | n + 1, b :: rest =>
      match tail? b with
      | none => none
      | some low => tails? (high * 64 + low) n rest

/-- The character numbered `n`, when `n` is at least `least` (no shorter encoding exists) and is a
scalar value. -/
def scalar? (least n : Nat) : Option Char :=
  if least ≤ n ∧ n.isValidChar then some (Char.ofNat n) else none

/-- The character that starts with the byte `b` when `rest` follows, and how many bytes of `rest` it
takes. -/
def lead? (b : UInt8) (rest : Bytes) : Option (Char × Nat) :=
  if b < 0x80 then some (Char.ofNat b.toNat, 0)
  else if b < 0xC0 then none
  else if b < 0xE0 then
    (tails? (b.toNat - 0xC0) 1 rest).bind fun n => (scalar? 0x80 n).map (·, 1)
  else if b < 0xF0 then
    (tails? (b.toNat - 0xE0) 2 rest).bind fun n => (scalar? 0x800 n).map (·, 2)
  else if b < 0xF8 then
    (tails? (b.toNat - 0xF0) 3 rest).bind fun n => (scalar? 0x10000 n).map (·, 3)
  else none

/-- The pieces of what is left after the first `skip` bytes. -/
def piecesFrom (skip : Nat) : Bytes → List Piece
  | [] => []
  | b :: rest =>
      match skip with
      | k + 1 => piecesFrom k rest
      | 0 =>
          match lead? b rest with
          | some (c, n) => .char c :: piecesFrom n rest
          | none => .stray b :: piecesFrom 0 rest

/-- The pieces of a byte string, from the left. -/
def pieces (bs : Bytes) : List Piece := piecesFrom 0 bs

/-- A byte string read as characters. -/
def runes (bs : Bytes) : List Char := (pieces bs).map Piece.rune

/-- No byte is stray. -/
def isValid (bs : Bytes) : Bool :=
  (pieces bs).all fun
    | .char _ => true
    | .stray _ => false

end RpcBindings.Utf8
