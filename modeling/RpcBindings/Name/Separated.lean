import RpcBindings.Text.Trim
import RpcBindings.Text.Letter
import RpcBindings.Text.Digit

/-!
# Separated names (SPEC §4.1)

A name from a schema may hold anything.  Before it is cased, blanks around it are dropped and each
character that no identifier can hold becomes an underscore.
-/

set_option autoImplicit false

namespace RpcBindings.Name

/-- The character can be part of an identifier. -/
def isWordChar (c : Char) : Bool := c == '_' || Text.isLetter c || Text.isDigit c

/-- A character, or an underscore where it cannot be part of an identifier. -/
def separateChar (c : Char) : Char := if isWordChar c then c else '_'

/-- The characters of a name between its outer blanks, made fit for an identifier. -/
def separateRunes (cs : List Char) : List Char := (trimRunes cs).map separateChar

/-- The name between its outer blanks, with underscores where no identifier could go on. -/
def separate (name : Bytes) : Bytes := Utf8.encode (separateRunes (Utf8.runes name))

end RpcBindings.Name
