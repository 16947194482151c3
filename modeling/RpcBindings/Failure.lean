import RpcBindings.Document.Violation
import RpcBindings.File.Fault
import RpcBindings.Run.Allowance
import RpcBindings.Settings.Options
import RpcBindings.Settings.Validation

/-!
# Failures (SPEC §7)

Every way in which a run can fail.  A failure has a cause; around the cause there may be notes that say
what was being done, and codes that say which stage of a run failed and with which file.  A failure
that has an interrupt as its cause is always coded as cancelled.
-/

set_option autoImplicit false

namespace RpcBindings

/-- The stage of a run that failed. -/
structure Code where
  name : Bytes
  deriving DecidableEq, Repr, Inhabited

namespace Code

/-- The settings are not valid. -/
def config : Code := ⟨"config"⟩

/-- The schema files cannot be read. -/
def io : Code := ⟨"io"⟩

/-- A schema file does not describe services. -/
def schema : Code := ⟨"schema"⟩

/-- The bindings cannot be written. -/
def sink : Code := ⟨"sink"⟩

/-- The run was stopped from outside. -/
def canceled : Code := ⟨"canceled"⟩

end Code

/-- Why something failed. -/
inductive Failure where
  | interrupted (why : Interrupt)
  | violation (v : Document.Violation)
  | options (refusal : Options.Refusal)
  | settings (faults : List Settings.FieldFault)
  | glob (fault : Glob.Fault)
  | outputPath (fault : Path.OutputFault)
  | file (fault : File.Fault)
  /-- A file to be written lies outside the directory it should be in. -/
  | outside (path : Bytes)
  /-- A file to be written is there already. -/
  | taken (path : Bytes)
  | noOutDir
  | noSchema
  | noSink
  /-- There were warnings where none are allowed. -/
  | warnings (count : Nat)
  /-- Something else that a destination of bindings said. -/
  | other (message : Bytes)
  /-- What was being done when the cause came up. -/
  | noted (note : Bytes) (cause : Failure)
  /-- The stage that failed, and the file it was about unless that is empty. -/
  | coded (code : Code) (path : Bytes) (cause : Failure)
  deriving DecidableEq, Repr, Inhabited

namespace Failure

/-- The wording of options that cannot be read. -/
def refusalMessage : Options.Refusal → Bytes
  | .notPair text => "option " ++ quote text ++ " is not of the form key=value"
  | .faults fs => "invalid options: " ++ Options.faultsMessage fs

/-- The wording of a failure. -/
def message : Failure → Bytes
  | .interrupted why => why.message
  | .violation v => v.message
  | .options refusal => refusalMessage refusal
  | .settings faults => Bytes.join "; " (faults.map Settings.FieldFault.message)
  | .glob fault => fault.message
  | .outputPath fault => fault.message
  | .file fault => fault.message
  | .outside path => "path escapes root directory: " ++ quote path
  | .taken path => "file already exists: " ++ quote path
  | .noOutDir => "OutDir is required"
  | .noSchema => "schema is nil"
  | .noSink => "sink is nil"
  | .warnings count => decimal count ++ " warnings"
  | .other text => text
  | .noted note cause => note ++ ": " ++ cause.message
  | .coded code path cause =>
      match path with
      | [] => code.name ++ ": " ++ cause.message
      | path => code.name ++ ": " ++ path ++ ": " ++ cause.message

/-- The cause behind all notes and codes. -/
def root : Failure → Failure
  | .noted _ cause => cause.root
  | .coded _ _ cause => cause.root
  | cause => cause

/-- The interrupt that caused a failure. -/
def interrupt? (f : Failure) : Option Interrupt :=
  match f.root with
  | .interrupted why => some why
  | _ => none

/-- The violation that caused a failure. -/
def violation? (f : Failure) : Option Document.Violation :=
  match f.root with
  | .violation v => some v
  | _ => none

/-- The faults of options that caused a failure. -/
def optionFaults? (f : Failure) : Option (List Options.Fault) :=
  match f.root with
  | .options (.faults fs) => some fs
  | _ => none

/-- The outermost code of a failure, and the file that goes with it. -/
def coding? : Failure → Option (Code × Bytes)
  | .coded code path _ => some (code, path)
  | .noted _ cause => cause.coding?
  | _ => none

/-- The outermost code of a failure. -/
def code? (f : Failure) : Option Code := f.coding?.map Prod.fst

/-- A failure with a note in front, unless the note is empty. -/
def note (text : Bytes) (f : Failure) : Failure :=
  match text with
  | [] => f
  | text => .noted text f

/-- A failure of a stage of a run, with what was being done.  An interrupt counts as cancellation,
whatever the stage. -/
def classify (code : Code) (path : Bytes) (cause : Failure) (text : Bytes) : Failure :=
  .coded (if cause.interrupt?.isSome then Code.canceled else code) path (cause.note text)

/-- The failure of options that cannot be read. -/
def ofRefusal (refusal : Options.Refusal) : Failure := .coded Code.config [] (.options refusal)

end Failure

end RpcBindings
