import RpcBindings.Name.Separated
import RpcBindings.Name.Casing
import RpcBindings.Name.Ascii

/-!
# Type style and member style (SPEC §4.1)

Types are named in upper camel case, and modules, functions and arguments in snake case.  A name
that is ASCII once separated is cased by bytes, any other by characters.
-/

set_option autoImplicit false

namespace RpcBindings.Name

/-- The name of a type: upper camel case without two capitals in a row. -/
def typeStyle (name : Bytes) : Bytes :=
  let text := separate name
  if Ascii.isAscii text then Utf8.encode (collapse (Utf8.runes (Ascii.camel text)))
  else Utf8.encode (camel (Utf8.runes text))

/-- The name of a module, function or argument: snake case. -/
def memberStyle (name : Bytes) : Bytes :=
  let text := separate name
  if Ascii.isAscii text then Ascii.snake text
  else Utf8.encode (snake (Utf8.runes text))

/-- The name is a type name as it stands.  Procedures with such names get a method; property
accessors and internal procedures do not have one. -/
def isTypeStyle (name : Bytes) : Bool := name != [] && typeStyle name == name

end RpcBindings.Name
