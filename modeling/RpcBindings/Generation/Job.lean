import RpcBindings.Generation.Run
import RpcBindings.Sink.Memory
import RpcBindings.Sink.Stream

/-!
# Jobs (SPEC §4.4)

A job gathers settings step by step and is then carried out, as often as wanted: to a file, to a
stream, or in memory.  Options that cannot be read leave the settings alone, but from then on the job
refuses to be carried out and gives the reason; the latest such reason counts.
-/

set_option autoImplicit false

namespace RpcBindings

open RpcBindings.File (Disk)
open RpcBindings.Generation (Delivered Report)

/-- Settings in the making. -/
structure Job where
  settings : Settings
  allowance : Allowance
  /-- Why options could not be read. -/
  rejected : Option Failure
  deriving DecidableEq, Repr, Inhabited

namespace Job

/-- A job for the schema files of a directory. -/
def fromDir (dir : Bytes) : Job where
  settings := { Settings.empty with schemaDir := dir }
  allowance := .unlimited
  rejected := none

/-! ## Steps -/

/-- Sets how long the job may go on. -/
def setAllowance (j : Job) (allowance : Allowance) : Job := { j with allowance }

/-- Sets the glob for the names of the schema files. -/
def setPattern (j : Job) (pattern : Bytes) : Job := { j with settings.pattern := pattern }

/-- Sets the path under which the modules of services live. -/
def setServicesPath (j : Job) (path : Bytes) : Job := { j with settings.servicesPath := path }

/-- Sets the type of the client. -/
def setClientPath (j : Job) (path : Bytes) : Job := { j with settings.clientPath := path }

/-- Sets the module with the request type and the macros. -/
def setSchemaPath (j : Job) (path : Bytes) : Job := { j with settings.schemaPath := path }

/-- Sets how many spaces make a level. -/
def setIndentSize (j : Job) (n : Int) : Job := { j with settings.indentSize := n }

/-- Makes every method show the response it got. -/
def showResponses (j : Job) : Job := { j with settings.debugResponses := true }

/-- Sets the frontmatter; the empty text stands for none. -/
def setFrontmatter (j : Job) (content : Bytes) : Job :=
  { j with settings.frontmatter := content, settings.noFrontmatter := content.isEmpty }

/-- Applies options, or keeps in mind why they could not be read. -/
def addOptions (j : Job) (text : Bytes) : Job :=
  match Options.parse text with
  | .error refusal => { j with rejected := some (Failure.ofRefusal refusal) }
  | .ok options => { j with settings := options.apply j.settings }

/-! ## Carrying out -/

/-- What is left after carrying a job out: the outcome, the job, and what it wrote to. -/
structure Done (σ : Type) where
  outcome : Except Failure Report
  job : Job
  state : σ

/-- The job after a run, which used some of its allowance up. -/
def done {σ : Type} (j : Job) (delivered : Delivered Report σ) : Done σ :=
  ⟨delivered.outcome, { j with allowance := delivered.allowance }, delivered.state⟩

/-- The settings for writing to a file. -/
def fileSettings (j : Job) (path : Bytes) : Settings :=
  { j.settings with outDir := Path.directory path, outputFile := Path.base path }

/-- Writes the bindings to a file of the disk. -/
def toFile (j : Job) (d : Disk) (path : Bytes) : Done Disk :=
  match j.rejected with
  | some f => ⟨.error f, j, d⟩
  | none => j.done (Generation.run d j.allowance (j.fileSettings path))

/-- Writes the bindings to a stream. -/
def toStream (j : Job) (d : Disk) (stream : Stream) : Done Stream :=
  match j.rejected with
  | some f => ⟨.error f, j, stream⟩
  | none => j.done (Generation.runTo d (some Stream.sink) stream j.allowance j.settings)

/-- The report of a run in memory, with the bindings in it. -/
def withContent (delivered : Delivered Report Memory) : Except Failure Report :=
  match delivered.outcome with
  | .error f => .error f
  | .ok report =>
      .ok { report with
        content := report.files.flatMap fun f => (delivered.state.get? f.path).getD [] }

/-- Gives the bindings as text, in the report. -/
def inMemory (j : Job) (d : Disk) : Except Failure Report × Job :=
  match j.rejected with
  | some f => (.error f, j)
  | none =>
      let delivered := Generation.runTo d (some Memory.sink) Memory.empty j.allowance j.settings
      (withContent delivered, { j with allowance := delivered.allowance })

end Job

end RpcBindings
