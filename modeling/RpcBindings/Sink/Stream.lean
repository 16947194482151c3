import RpcBindings.Sink.Basic

/-!
# Streams (SPEC §2)

A sink that writes all contents one after another.  The path is checked and otherwise of no account.
A stream may stop taking contents at some point and says why.
-/

set_option autoImplicit false

namespace RpcBindings

/-- What was written to a stream, and what it still takes. -/
structure Stream where
  written : Bytes
  /-- How many contents it still takes; all when there is no number. -/
  capacity : Option Nat
  /-- What it says when it takes no more. -/
  complaint : Bytes
  deriving DecidableEq, Repr, Inhabited

namespace Stream

/-- A stream that takes everything. -/
def accepting : Stream := ⟨[], none, []⟩

/-- Writes a content, unless the stream takes no more. -/
def append (s : Stream) (content : Bytes) : Except Failure Stream :=
  match s.capacity with
  | some 0 => .error (.other s.complaint)
  | capacity =>
      .ok { s with written := s.written ++ content, capacity := capacity.map (· - 1) }

/-- The sink that writes to a stream. -/
def sink : Sink Stream where
  write s allowance path content :=
    match Sink.enter allowance path with
    | .error f => ⟨.error f, allowance, s⟩
    | .ok allowance =>
        match s.append content with
        | .error f => ⟨.error (.noted ("failed to write " ++ path) f), allowance, s⟩
        | .ok s => ⟨.ok (), allowance, s⟩

end Stream

end RpcBindings
