import RpcBindings.Text.Utf8
import RpcBindings.Text.Blank

/-!
# Trimming

Blanks around a text are dropped.  A stray byte is no blank, so trimming keeps it and what stands
between.
-/

set_option autoImplicit false

namespace RpcBindings

/-- The characters without the blanks at both ends. -/
def trimRunes (cs : List Char) : List Char :=
  ((cs.dropWhile Text.isBlank).reverse.dropWhile Text.isBlank).reverse

namespace Utf8.Piece

/-- The piece is a blank character. -/
def isBlank : Piece → Bool
  | .char c => Text.isBlank c
  | .stray _ => false

/-- The bytes the piece was read from. -/
def bytes : Piece → Bytes
  | .char c => String.utf8EncodeChar c
  | .stray b => [b]

end Utf8.Piece

/-- The text without the blanks at both ends. -/
def trim (bs : Bytes) : Bytes :=
  ((((Utf8.pieces bs).dropWhile (·.isBlank)).reverse.dropWhile (·.isBlank)).reverse).flatMap
    (·.bytes)

end RpcBindings
