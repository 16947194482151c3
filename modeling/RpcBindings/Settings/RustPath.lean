import RpcBindings.Text.Bytes

/-!
# Paths of Rust (SPEC §8)

A path names something in a crate: identifiers with two colons between them, perhaps two colons in
front, each identifier perhaps raw.  Only ASCII identifiers are taken, as paths are pasted into code
without a further look.
-/

set_option autoImplicit false

namespace RpcBindings.RustPath

/-- The byte can start an identifier. -/
def isStart (b : UInt8) : Bool :=
  (0x41 ≤ b && b ≤ 0x5A) || (0x61 ≤ b && b ≤ 0x7A) || b == 0x5F

/-- The byte can go on an identifier. -/
def isContinue (b : UInt8) : Bool := isStart b || (0x30 ≤ b && b ≤ 0x39)

/-- The text is an identifier. -/
def isIdentifier : Bytes → Bool
  | [] => false
  | b :: rest => isStart b && rest.all isContinue

/-- The text is an identifier, raw or not. -/
def isSegment (bs : Bytes) : Bool := isIdentifier ((Bytes.after? "r#" bs).getD bs)

/-- The parts between pairs of colons. -/
def segments : Bytes → List Bytes
  | [] => [[]]
  | [b] => [[b]]
  | b :: c :: rest =>
      if b = 0x3A ∧ c = 0x3A then [] :: segments rest
      else
        match segments (c :: rest) with
        | [] => [[b]]
        | part :: parts => (b :: part) :: parts

/-- The text is a path. -/
def isPath (bs : Bytes) : Bool := (segments ((Bytes.after? "::" bs).getD bs)).all isSegment

end RpcBindings.RustPath
