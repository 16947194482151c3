import RpcBindings.Command.Transcript
import RpcBindings.Generation.Job

/-!
# Writing bindings (SPEC §10)

The command that writes bindings to a file or to the standard output.  A run that fails tells nothing
but its failure.
-/

set_option autoImplicit false

namespace RpcBindings.Command

open RpcBindings.File (Disk)
open RpcBindings.Generation (Report)

/-- What the command for bindings is told. -/
structure Generate where
  schemaDir : Bytes
  /-- The file to write; the standard output when it is empty. -/
  out : Bytes
  pattern : Bytes
  servicesPath : Bytes
  clientPath : Bytes
  schemaPath : Bytes
  options : List Bytes
  debugResponses : Bool
  noFrontmatter : Bool
  deriving DecidableEq, Repr, Inhabited

namespace Generate

/-- Takes a step of a job unless the text for it is empty. -/
def unlessEmpty (step : Job → Bytes → Job) (text : Bytes) (j : Job) : Job :=
  if text = [] then j else step j text

/-- The job of the command.  Options come first, so that the flags have the last word. -/
def job (g : Generate) : Job :=
  let j := g.options.foldl Job.addOptions (Job.fromDir g.schemaDir)
  let j := unlessEmpty Job.setPattern g.pattern j
  let j := unlessEmpty Job.setServicesPath g.servicesPath j
  let j := unlessEmpty Job.setClientPath g.clientPath j
  let j := unlessEmpty Job.setSchemaPath g.schemaPath j
  let j := if g.debugResponses then j.showResponses else j
  if g.noFrontmatter then j.setFrontmatter [] else j

/-- The event that closes a run. -/
def closingEvent (g : Generate) (r : Report) : Event where
  level := .info
  message := "generated bindings"
  fields :=
    [numberField "services" r.tally.services, numberField "procedures" r.tally.procedures,
      numberField "skipped" r.tally.skipped] ++
    (if g.out = [] then [] else [textField "out" g.out])

/-- What is left behind by a run with a report. -/
def finish (g : Generate) (outcome : Except Failure Report) (stdout : Bytes) (d : Disk) :
    Transcript :=
  match outcome with
  | .error f => .failed f d
  | .ok r => ⟨.ok (), stdout, reportEvents r ++ [g.closingEvent r], d⟩

/-- Carries the command out. -/
def run (g : Generate) (d : Disk) : Transcript :=
  if g.out = [] then
    let done := g.job.toStream d Stream.accepting
    g.finish done.outcome done.state.written d
  else
    let done := g.job.toFile d g.out
    g.finish done.outcome [] done.state

end Generate

end RpcBindings.Command
