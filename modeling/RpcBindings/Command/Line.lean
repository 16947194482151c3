import RpcBindings.Command.Arguments
import RpcBindings.Command.Check
import RpcBindings.Command.Generate
import RpcBindings.Command.Version

/-!
# The command line (SPEC §10)

From the arguments of the program to its exit code and all that it prints.  A command line that
cannot be understood and a command that fails have different exit codes.
-/

set_option autoImplicit false

namespace RpcBindings.Command

open RpcBindings.File (Disk)

/-- All that a run of the program leaves behind. -/
structure Ending where
  exit : Nat
  stdout : Bytes
  /-- Why the program failed. -/
  fatal : Option Bytes
  /-- The lines of the log. -/
  log : List Bytes
  disk : Disk

/-- The exit code for a command line that cannot be understood. -/
def usageExit : Nat := 80

/-- The exit code for a command that fails. -/
def failureExit : Nat := 1

/-- The ending of a program that carried a command out. -/
def Transcript.ending (t : Transcript) (verbose : Bool) : Ending :=
  let log := (shown verbose t.events).map Event.line
  match t.outcome with
  | .ok () => ⟨0, t.stdout, none, log, t.disk⟩
  | .error f => ⟨failureExit, t.stdout, some f.message, log, t.disk⟩

/-- The command for bindings that arguments give. -/
def Arguments.generate (a : Arguments) (schemaDir : Bytes) : Generate where
  schemaDir := schemaDir
  out := a.out
  pattern := a.pattern
  servicesPath := a.servicesPath
  clientPath := a.clientPath
  schemaPath := a.schemaPath
  options := a.options
  debugResponses := a.debugResponses
  noFrontmatter := a.noFrontmatter

/-- Runs the program with arguments. -/
def program (d : Disk) (args : List Bytes) : Ending :=
  match request d args with
  | .error fault => ⟨usageExit, [], some fault.message, [], d⟩
  | .ok .help => ⟨0, [], none, [], d⟩
  | .ok (.version _) => ⟨0, currentVersion ++ "\n", none, [], d⟩
  | .ok (.generate verbose a dir) => ((a.generate dir).run d).ending verbose
  | .ok (.check verbose a dir) =>
      ((Check.mk dir a.pattern a.strict).run d).ending verbose

end RpcBindings.Command
