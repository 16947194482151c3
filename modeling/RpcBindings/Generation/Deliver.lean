import RpcBindings.Binding.Render
import RpcBindings.Settings.Basic
import RpcBindings.Sink.Basic

/-!
# Delivering bindings (SPEC §4.4)

The bindings of a schema are one file.  It is rendered in full before the sink sees any of it, and
the sink sees it once.
-/

set_option autoImplicit false

namespace RpcBindings.Generation

/-- A file that was written, and how many bytes it has. -/
structure Written where
  path : Bytes
  size : Nat
  deriving DecidableEq, Repr, Inhabited

/-- Bindings that were delivered. -/
structure Delivery where
  files : List Written
  tally : Binding.Tally
  deriving DecidableEq, Repr, Inhabited

/-- What is left after an attempt to deliver something of type `α` to a sink. -/
structure Delivered (α σ : Type) where
  outcome : Except Failure α
  allowance : Allowance
  state : σ

/-- Writes the bindings of a schema to a file of a sink. -/
def deliver {σ : Type} (sink : Sink σ) (state : σ) (allowance : Allowance) (setup : Binding.Setup)
    (outputFile : Bytes) (schema : Schema) : Delivered Delivery σ :=
  match allowance.check with
  | .error why => ⟨.error (.interrupted why), allowance, state⟩
  | .ok allowance =>
      let content := Binding.text setup schema
      let path := Settings.orElse outputFile Settings.defaultOutputFile
      let attempt := sink.write state allowance path content
      match attempt.outcome with
      | .error f =>
          ⟨.error (.noted ("failed to write " ++ path) f), attempt.allowance, attempt.state⟩
      | .ok () =>
          ⟨.ok ⟨[⟨path, content.length⟩], Binding.tally schema⟩, attempt.allowance, attempt.state⟩

/-- Writes the bindings of a schema to a file of a sink, if there are a schema and a sink. -/
def deliver? {σ : Type} (sink : Option (Sink σ)) (state : σ) (allowance : Allowance)
    (setup : Binding.Setup) (outputFile : Bytes) (schema : Option Schema) : Delivered Delivery σ :=
  match schema, sink with
  | none, _ => ⟨.error .noSchema, allowance, state⟩
  | some _, none => ⟨.error .noSink, allowance, state⟩
  | some schema, some sink => deliver sink state allowance setup outputFile schema

end RpcBindings.Generation
