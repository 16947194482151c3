import RpcBindings.Generation.Deliver
import RpcBindings.Generation.Load
import RpcBindings.Settings.Validation
import RpcBindings.Sink.Folder

/-!
# Runs (SPEC §4.4)

A run checks its settings, loads the schema, and delivers the bindings.  Nothing is delivered unless
all that comes before has gone well.
-/

set_option autoImplicit false

namespace RpcBindings.Generation

open RpcBindings.File (Disk)

/-- What a run did. -/
structure Report where
  files : List Written
  /-- The files that were read, in the order in which they were. -/
  documents : List Bytes
  tally : Binding.Tally
  /-- The services that are referred to and not declared. -/
  external : List Bytes
  /-- The bindings, when they were asked for as text. -/
  content : Bytes
  deriving DecidableEq, Repr, Inhabited

/-- The report of a delivery. -/
def report (schema : Schema) (delivery : Delivery) : Report where
  files := delivery.files
  documents := schema.documents
  tally := delivery.tally
  external := schema.external
  content := []

/-- What is wrong with settings, as a failure. -/
def validate (settings : Settings) : Except Failure Unit :=
  match settings.faults with
  | [] => .ok ()
  | faults => .error (.coded Code.config [] (.settings faults))

/-- Runs with a sink.  That there is one is looked at only when the bindings are to be delivered. -/
def runTo {σ : Type} (d : Disk) (sink : Option (Sink σ)) (state : σ) (allowance : Allowance)
    (settings : Settings) : Delivered Report σ :=
  match validate settings with
  | .error f => ⟨.error f, allowance, state⟩
  | .ok () =>
      let settings := settings.withDefaults
      match load d allowance settings.schemaDir settings.pattern with
      | (.error f, allowance) => ⟨.error f, allowance, state⟩
      | (.ok schema, allowance) =>
          let delivered :=
            deliver? sink state allowance settings.setup settings.outputFile (some schema)
          match delivered.outcome with
          | .error f =>
              ⟨.error (Failure.classify Code.sink settings.outputFile f []),
                delivered.allowance, delivered.state⟩
          | .ok delivery => ⟨.ok (report schema delivery), delivered.allowance, delivered.state⟩

/-- Runs with the output directory of the settings as the sink. -/
def run (d : Disk) (allowance : Allowance) (settings : Settings) : Delivered Report Disk :=
  if settings.outDir = [] then ⟨.error (.coded Code.config [] .noOutDir), allowance, d⟩
  else runTo d (some (Folder.below settings.outDir).sink) d allowance settings

end RpcBindings.Generation
