import RpcBindings.Failure

/-!
# Sinks (SPEC §2, §5)

A sink is where bindings go.  Writing a file to a sink looks at the allowance, may fail, and leaves
the sink in a new state either way.
-/

set_option autoImplicit false

namespace RpcBindings

/-- What is left after an attempt to write: the outcome, the allowance and the state of the sink. -/
structure Attempt (σ : Type) where
  outcome : Except Failure Unit
  allowance : Allowance
  state : σ

/-- A destination with states of type `σ`. -/
structure Sink (σ : Type) where
  /-- Writes a content to a path. -/
  write : σ → Allowance → Bytes → Bytes → Attempt σ

namespace Sink

/-- What every sink does first: it refuses a path that cannot name an output file, and then looks
whether the run may go on. -/
def enter (allowance : Allowance) (path : Bytes) : Except Failure Allowance :=
  match Path.outputFault? path with
  | some fault => .error (.noted ("invalid path " ++ quote path) (.outputPath fault))
  | none =>
      match allowance.check with
      | .error why => .error (.interrupted why)
      | .ok allowance => .ok allowance

end Sink

end RpcBindings
