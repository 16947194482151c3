import RpcBindings.Path.Lexical
import RpcBindings.Text.Quoted

/-!
# Output paths (SPEC §2, §4.4)

A file to be written is named by a path that stays below the place it is written to: it is relative,
never leads up, and is clean.
-/

set_option autoImplicit false

namespace RpcBindings.Path

/-- Why a path cannot name a file to be written. -/
inductive OutputFault where
  | empty
  | absolute
  | traversal
  | unclean (path : Bytes)
  deriving DecidableEq, Repr, Inhabited

/-- The wording of a fault. -/
def OutputFault.message : OutputFault → Bytes
  | .empty => "path is empty"
  | .absolute => "absolute paths not allowed"
  | .traversal => "path traversal not allowed"
  | .unclean path =>
      "path is not clean (expected " ++ quote (clean path) ++ ", got " ++ quote path ++ ")"

/-- The byte is an ASCII letter. -/
def isAsciiLetter (b : UInt8) : Bool := (0x41 ≤ b && b ≤ 0x5A) || (0x61 ≤ b && b ≤ 0x7A)

/-- The path starts with a letter and a colon, as the name of a drive does. -/
def startsWithDrive : Bytes → Bool
  | letter :: 0x3A :: _ => isAsciiLetter letter
  | _ => false

/-- What is wrong with a path as the name of a file to be written. -/
def outputFault? (path : Bytes) : Option OutputFault :=
  if path = [] then some .empty
  else if isAbsolute path || startsWithDrive path then some .absolute
  else if up ∈ Bytes.split separator path then some .traversal
  else if clean path ≠ path then some (.unclean path)
  else none

end RpcBindings.Path
