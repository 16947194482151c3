import RpcBindings.Text.Numeral
import RpcBindings.Text.Printable

/-!
# Quoted text (SPEC §7)

Messages show names in double quotes.  Printable characters stand for themselves, a quote and a
backslash are protected, seven control characters have a letter of their own, and all else is
written as a number: a stray byte and an ASCII control as two hexadecimal digits, other characters
as four or eight.  Each message is thus one line in which every byte of the name can be told.
-/

set_option autoImplicit false

namespace RpcBindings

/-- The letter that stands for a control character after a backslash. -/
def controlLetter? (c : Char) : Option Bytes :=
  match c.toNat with
  | 0x07 => some "a"
  | 0x08 => some "b"
  | 0x09 => some "t"
  | 0x0A => some "n"
  | 0x0B => some "v"
  | 0x0C => some "f"
  | 0x0D => some "r"
  | _ => none

/-- A character inside quotes. -/
def quotedChar (c : Char) : Bytes :=
  if c = '"' then "\\\""
  else if c = '\\' then "\\\\"
  else if Text.isPrintable c then Utf8.encode [c]
  else
    match controlLetter? c with
    | some letter => "\\" ++ letter
    | none =>
        if c.toNat < 0x20 ∨ c.toNat = 0x7F then "\\x" ++ hexFilled 2 c.toNat
        else if c.toNat < 0x10000 then "\\u" ++ hexFilled 4 c.toNat
        else "\\U" ++ hexFilled 8 c.toNat

/-- A piece inside quotes. -/
def quotedPiece : Utf8.Piece → Bytes
  | .char c => quotedChar c
  | .stray b => "\\x" ++ hexFilled 2 b.toNat

/-- The text in double quotes, as messages show it. -/
def quote (bs : Bytes) : Bytes :=
  "\"" ++ (Utf8.pieces bs).flatMap quotedPiece ++ "\""

end RpcBindings
