import RpcBindings.Text.Utf8

/-!
# Numerals

Numbers as text: decimal with no sign or leading zero, and hexadecimal with small letters, either
as short as possible or filled with zeros to a width.
-/

set_option autoImplicit false

namespace RpcBindings

/-- The decimal numeral of a number. -/
def decimal (n : Nat) : Bytes := Utf8.encode (Nat.toDigits 10 n)

/-- The shortest hexadecimal numeral of a number. -/
def hex (n : Nat) : Bytes := Utf8.encode (Nat.toDigits 16 n)

/-- The hexadecimal numeral of a number, with zeros in front up to `width` digits. -/
def hexFilled (width n : Nat) : Bytes :=
  List.replicate (width - (hex n).length) 0x30 ++ hex n

end RpcBindings
