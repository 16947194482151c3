import RpcBindings.Text.Utf8

/-!
# Glob patterns (SPEC §4.4)

A pattern is a sequence of chunks, each of which may have stars in front of it.  Inside a chunk, `?`
stands for a character, brackets for a set of characters, and a backslash protects what follows it.
Splitting a pattern into chunks never fails; reading a chunk fails on a set that is not closed or
empty, on a range without an end, and on a backslash with nothing behind it.
-/

set_option autoImplicit false

namespace RpcBindings.Glob

/-- A part of a pattern up to the next star. -/
structure Chunk where
  /-- There is a star in front of it. -/
  starred : Bool
  text : Bytes
  deriving DecidableEq, Repr, Inhabited

/-- The text up to the next star outside brackets, and the chunks from there on. -/
def chunksFrom (inSet : Bool) : Bytes → Bytes × List Chunk
  | [] => ([], [])
  | b :: rest =>
      if b = 0x5C then
        match rest with
        | [] => ([b], [])
        | c :: rest =>
            let next := chunksFrom inSet rest
            (b :: c :: next.1, next.2)
      else if b = 0x2A && !inSet then
        let next := chunksFrom false rest
        if rest.head? = some 0x2A then next
        else ([], ⟨true, next.1⟩ :: next.2)
      else
        let next := chunksFrom (if b = 0x5B then true else if b = 0x5D then false else inSet) rest
        (b :: next.1, next.2)

/-- The chunks of a pattern. -/
def chunks (pattern : Bytes) : List Chunk :=
  match chunksFrom false pattern with
  | ([], starred) => starred
  | (text, starred) => ⟨false, text⟩ :: starred

/-- What a chunk is made of. -/
inductive Token where
  /-- A byte that stands for itself. -/
  | byte (b : UInt8)
  /-- Any character except a slash. -/
  | any
  /-- A character from one of the ranges, or from none of them. -/
  | set (negated : Bool) (ranges : List (Char × Char))
  deriving DecidableEq, Repr, Inhabited

/-- The character at the front, and what follows it, which may not be nothing. -/
def plainChar? : Bytes → Option (Char × Bytes)
  | [] => none
  | b :: rest =>
      match Utf8.lead? b rest with
      | none => none
      | some (c, n) => if (rest.drop n).isEmpty then none else some (c, rest.drop n)

theorem length_lt_of_plainChar? {chunk rest : Bytes} {c : Char}
    (h : plainChar? chunk = some (c, rest)) : rest.length < chunk.length := by
  unfold plainChar? at h
  split at h
  · simp at h
  · split at h
    · simp at h
    · split at h
      · simp at h
      · cases h
        simp only [List.length_drop, List.length_cons]
        omega

/-- A character of a set, protected or not, and what follows it, which may not be nothing. -/
def setChar? : Bytes → Option (Char × Bytes)
  | [] => none
  | b :: rest =>
      if b = 0x2D ∨ b = 0x5D then none
      else if b = 0x5C then plainChar? rest
      else plainChar? (b :: rest)

theorem length_lt_of_setChar? {chunk rest : Bytes} {c : Char}
    (h : setChar? chunk = some (c, rest)) : rest.length < chunk.length := by
  unfold setChar? at h
  split at h
  · simp at h
  · split at h
    · simp at h
    · split at h
      · have := length_lt_of_plainChar? h
        simp only [List.length_cons]
        omega
      · exact length_lt_of_plainChar? h

/-- The ranges of a set up to its closing bracket, and what follows it.  The bracket closes the set
only when `started` holds, which is so once a range has been read. -/
def readRanges (started : Bool) (chunk : Bytes) : Option (List (Char × Char) × Bytes) :=
  if started && chunk.head? == some 0x5D then some ([], chunk.tail)
  else
    match h : setChar? chunk with
    | none => none
    | some (lo, rest) =>
        have := length_lt_of_setChar? h
        if rest.head? = some 0x2D then
          match h' : setChar? rest.tail with
          | none => none
          | some (hi, rest') =>
              have := length_lt_of_setChar? h'
              match readRanges true rest' with
              | none => none
              | some (ranges, rest'') => some ((lo, hi) :: ranges, rest'')
        else
          match readRanges true rest with
          | none => none
          | some (ranges, rest') => some ((lo, lo) :: ranges, rest')
termination_by chunk.length
decreasing_by
  · simp only [List.length_tail] at this
    omega
  · assumption

theorem length_lt_of_readRanges {started : Bool} {chunk rest : Bytes}
    {ranges : List (Char × Char)} (h : readRanges started chunk = some (ranges, rest)) :
    rest.length < chunk.length := by
  fun_induction readRanges started chunk generalizing ranges rest with
  | case1 started chunk hs =>
      cases h
      cases chunk with
      | nil => simp at hs
      | cons b more => simp
  | case2 => simp at h
  | case3 => simp at h
  | case4 => simp at h
  | case5 started chunk _ lo mid hmid hlt _ hi rest' hhi hlt' rs rest'' hrec ih =>
      cases h
      have := ih hrec
      simp only [List.length_tail] at hlt'
      omega
  | case6 => simp at h
  | case7 started chunk _ lo mid hmid hlt _ rs rest' hrec ih =>
      cases h
      have := ih hrec
      omega

/-- The tokens of a chunk. -/
def tokens? (chunk : Bytes) : Option (List Token) :=
  match chunk with
  | [] => some []
  | b :: rest =>
      if b = 0x5B then
        let negated := rest.head? == some 0x5E
        match h : readRanges false (if negated then rest.tail else rest) with
        | none => none
        | some (ranges, rest') =>
            have := length_lt_of_readRanges h
            match tokens? rest' with
            | none => none
            | some tokens => some (.set negated ranges :: tokens)
      else if b = 0x3F then
        match tokens? rest with
        | none => none
        | some tokens => some (.any :: tokens)
      else if b = 0x5C then
        match rest with
        | [] => none
        | c :: rest' =>
            match tokens? rest' with
            | none => none
            | some tokens => some (.byte c :: tokens)
      else
        match tokens? rest with
        | none => none
        | some tokens => some (.byte b :: tokens)
termination_by chunk.length
decreasing_by
  · split at this <;> simp_all only [List.length_tail, List.length_cons] <;> omega
  · simp
  · simp only [List.length_cons]
    omega
  · simp

end RpcBindings.Glob
