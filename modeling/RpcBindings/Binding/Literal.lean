import RpcBindings.Text.Numeral
import RpcBindings.Text.Printable

/-!
# String literals of Rust (SPEC §4.3)

The names of services and procedures go over the wire, so the code holds them as string literals.
Every byte string has one, on a single line: printable characters stand for themselves, and quotes,
backslashes and all other characters are escaped.  A stray byte is read as the replacement
character.
-/

set_option autoImplicit false

namespace RpcBindings.Binding

/-- A character inside a string literal. -/
def literalChar (c : Char) : Bytes :=
  if c = '"' then "\\\""
  else if c = '\\' then "\\\\"
  else if c = '\n' then "\\n"
  else if c = '\r' then "\\r"
  else if c = '\t' then "\\t"
  else if c.toNat = 0 then "\\0"
  else if Text.isPrintable c then Utf8.encode [c]
  else "\\u\x7b" ++ hex c.toNat ++ "\x7d"

/-- The string literal that holds a text. -/
def literal (bs : Bytes) : Bytes :=
  "\"" ++ (Utf8.runes bs).flatMap literalChar ++ "\""

end RpcBindings.Binding
