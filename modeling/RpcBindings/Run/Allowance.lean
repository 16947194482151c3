import RpcBindings.Text.Bytes

/-!
# Allowances (SPEC §5)

A run can be stopped from outside: it is cancelled, or a deadline passes.  It looks at fixed points
whether it may go on; the allowance says how many of these looks it passes, and why the next one fails.
Once one fails, all later ones fail in the same way.
-/

set_option autoImplicit false

namespace RpcBindings

/-- Why a run has to stop. -/
inductive Interrupt where
  | canceled
  | deadlineExceeded
  deriving DecidableEq, Repr, Inhabited

/-- The wording of an interrupt. -/
def Interrupt.message : Interrupt → Bytes
  | .canceled => "context canceled"
  | .deadlineExceeded => "context deadline exceeded"

/-- How long a run may go on. -/
inductive Allowance where
  /-- It is never stopped. -/
  | unlimited
  /-- It is stopped from now on. -/
  | over (why : Interrupt)
  /-- It passes `n` more checks and is then stopped. -/
  | checks (n : Nat) (why : Interrupt := .canceled)
  deriving DecidableEq, Repr, Inhabited

namespace Allowance

/-- Looks whether the run may go on, and what is then left of the allowance. -/
def check : Allowance → Except Interrupt Allowance
  | .unlimited => .ok .unlimited
  | .over why => .error why
  | .checks 0 why => .error why
  | .checks (n + 1) why => .ok (.checks n why)

end Allowance

end RpcBindings
