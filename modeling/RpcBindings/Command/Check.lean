import RpcBindings.Command.Transcript
import RpcBindings.Generation.Job

/-!
# Checking (SPEC §10)

The command that writes nothing and prints how much would be bound and what there is to warn about.
-/

set_option autoImplicit false

namespace RpcBindings.Command

open RpcBindings.File (Disk)
open RpcBindings.Generation (Report)

/-- What the command for checking is told. -/
structure Check where
  schemaDir : Bytes
  pattern : Bytes
  /-- Warnings are not allowed. -/
  strict : Bool
  deriving DecidableEq, Repr, Inhabited

namespace Check

/-- The lines about what would be bound. -/
def summary (r : Report) : Bytes :=
  let external : Bytes :=
    if r.external = [] then []
    else "• references services outside this run: " ++ Bytes.join ", " r.external ++ "\n"
  "✓ " ++ decimal r.documents.length ++ " documents, " ++ decimal r.tally.services ++
    " services\n✓ " ++ decimal r.tally.procedures ++ " procedures bound, " ++
    decimal r.tally.skipped ++ " skipped\n" ++ external

/-- The line about the warnings. -/
def verdict (r : Report) : Bytes :=
  if r.tally.warnings = [] then "✓ No warnings\n"
  else "✗ " ++ decimal r.tally.warnings.length ++ " warnings\n"

/-- Carries the command out. -/
def run (c : Check) (d : Disk) : Transcript :=
  match (((Job.fromDir c.schemaDir).setPattern c.pattern).inMemory d).1 with
  | .error f => .failed f d
  | .ok r =>
      let outcome : Except Failure Unit :=
        if c.strict && !r.tally.warnings.isEmpty then .error (.warnings r.tally.warnings.length)
        else .ok ()
      ⟨outcome, summary r ++ verdict r, reportEvents r, d⟩

end Check

end RpcBindings.Command
