import RpcBindings.Text.Run

/-!
# Blanks

The characters with the property White_Space of Unicode 17.0.
-/

set_option autoImplicit false
set_option maxRecDepth 4000

namespace RpcBindings.Text

/-- The blanks in increasing order. -/
def blankRuns : List Run :=
  [⟨0x9, 0xD, 1⟩, ⟨0x20, 0x20, 1⟩, ⟨0x85, 0x85, 1⟩, ⟨0xA0, 0xA0, 1⟩, ⟨0x1680, 0x1680, 1⟩,
   ⟨0x2000, 0x200A, 1⟩, ⟨0x2028, 0x2029, 1⟩, ⟨0x202F, 0x202F, 1⟩, ⟨0x205F, 0x205F, 1⟩,
   ⟨0x3000, 0x3000, 1⟩]

/-- The character is white space. -/
def isBlank (c : Char) : Bool := Run.mem c.toNat blankRuns

end RpcBindings.Text
