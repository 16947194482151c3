import RpcBindings.Glob.Pattern

/-!
# Matching globs (SPEC §4.4)

Chunks are matched from the left.  A chunk without a star has to match where the name goes on; one
with a star matches at the first place where it can, though never behind a slash, and is not tried
again once a later chunk fails.  The last chunk has to use the name up.

A chunk is read when it is reached.  So a fault in a chunk shows only if all chunks before it match.
-/

set_option autoImplicit false

namespace RpcBindings.Glob

/-- Why a pattern cannot be used. -/
inductive Fault where
  | badPattern
  deriving DecidableEq, Repr, Inhabited

/-- The wording of a fault. -/
def Fault.message : Fault → Bytes
  | .badPattern => "syntax error in pattern"

/-- The character at the front of a name, a stray byte read as the replacement character, and what
follows it. -/
def firstRune : Bytes → Option (Char × Bytes)
  | [] => none
  | b :: rest =>
      match Utf8.lead? b rest with
      | some (c, n) => some (c, rest.drop n)
      | none => some (Utf8.replacement, rest)

/-- What is left of a name when tokens match its front. -/
def matchTokens : List Token → Bytes → Option Bytes
  | [], name => some name
  | .byte b :: tokens, name =>
      match name with
      | [] => none
      | c :: rest => if b = c then matchTokens tokens rest else none
  | .any :: tokens, name =>
      match firstRune name with
      | none => none
      | some (c, rest) => if c = '/' then none else matchTokens tokens rest
  | .set negated ranges :: tokens, name =>
      match firstRune name with
      | none => none
      | some (c, rest) =>
          if (ranges.any fun r => r.1 ≤ c && c ≤ r.2) == negated then none
          else matchTokens tokens rest

/-- What is left of a name behind the first place after its front where tokens match, and use it up
if they are the last.  Places behind a slash do not count. -/
def matchLater (tokens : List Token) (isLast : Bool) : Bytes → Option Bytes
  | [] => none
  | b :: rest =>
      if b = 0x2F then none
      else
        match matchTokens tokens rest with
        | some left =>
            if isLast && !left.isEmpty then matchLater tokens isLast rest else some left
        | none => matchLater tokens isLast rest

/-- What is left of a name behind a chunk. -/
def matchChunk (tokens : List Token) (starred isLast : Bool) (name : Bytes) : Option Bytes :=
  match matchTokens tokens name with
  | some left =>
      if left.isEmpty || !isLast then some left
      else if starred then matchLater tokens isLast name
      else none
  | none => if starred then matchLater tokens isLast name else none

/-- The chunks match the name. -/
def matchChunks : List Chunk → Bytes → Except Fault Bool
  | [], name => .ok name.isEmpty
  | chunk :: rest, name =>
      if chunk.starred && chunk.text.isEmpty then .ok (!name.contains 0x2F)
      else
        match tokens? chunk.text with
        | none => .error .badPattern
        | some tokens =>
            match matchChunk tokens chunk.starred rest.isEmpty name with
            | some left => matchChunks rest left
            | none => .ok false

/-- The pattern matches the name. -/
def matches? (pattern name : Bytes) : Except Fault Bool := matchChunks (chunks pattern) name

end RpcBindings.Glob
