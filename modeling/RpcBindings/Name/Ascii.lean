import RpcBindings.Text.Bytes

/-!
# Casing of ASCII names (SPEC §4.1)

Most names are ASCII, where casing can work on bytes and needs no tables.  Camel case here raises
and lowers by what was read and leaves capitals next to each other where words of one letter meet;
the caller collapses them.
-/

set_option autoImplicit false

namespace RpcBindings.Name.Ascii

/-- All bytes are below 128. -/
def isAscii (bs : Bytes) : Bool := bs.all (· < 0x80)

/-- The byte is one of `A` to `Z`. -/
def isCapital (b : UInt8) : Bool := 0x41 ≤ b && b ≤ 0x5A

/-- The byte is one of `a` to `z`. -/
def isSmall (b : UInt8) : Bool := 0x61 ≤ b && b ≤ 0x7A

/-- The byte is one of `0` to `9`. -/
def isNumeral (b : UInt8) : Bool := 0x30 ≤ b && b ≤ 0x39

/-- The capital of a small letter; other bytes stay. -/
def raise (b : UInt8) : UInt8 := if isSmall b then b - 0x20 else b

/-- The small letter of a capital; other bytes stay. -/
def lower (b : UInt8) : UInt8 := if isCapital b then b + 0x20 else b

/-- Camel case from the middle of a name on: `capNext` asks for a capital, `prevCap` tells that the
byte read before was one.  Letters are kept, digits are kept and ask for a capital, and what else
there is only asks for one. -/
def camelFrom (capNext prevCap : Bool) : Bytes → Bytes
  | [] => []
  | b :: bs =>
      if isCapital b || isSmall b then
        (if capNext then raise b else if prevCap && isCapital b then lower b else b) ::
          camelFrom false (isCapital b) bs
      else if isNumeral b then b :: camelFrom true false bs
      else camelFrom true false bs

/-- An ASCII name in camel case. -/
def camel (bs : Bytes) : Bytes := camelFrom true false bs

/-- Snake case from the middle of a name on; `prevCap` tells that the byte before is a capital. -/
def snakeFrom (prevCap : Bool) : Bytes → Bytes
  | [] => []
  | [b] => [lower b]
  | b :: d :: bs =>
      let wordEnds :=
        (isCapital b && (isSmall d || isNumeral d)) ||
        (isSmall b && (isCapital d || isNumeral d)) ||
        (isNumeral b && (isCapital d || isSmall d))
      let rest := snakeFrom (isCapital b) (d :: bs)
      if wordEnds then
        let body :=
          if isSmall b || isNumeral b || isNumeral d then lower b :: 0x5F :: rest
          else lower b :: rest
        if isCapital b && isSmall d && prevCap then 0x5F :: body else body
      else lower b :: rest

/-- An ASCII name in snake case. -/
def snake (bs : Bytes) : Bytes := snakeFrom false bs

end RpcBindings.Name.Ascii
