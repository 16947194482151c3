import RpcBindings.Proofs.Generation.Stops

/-!
# Codes of failures (SPEC §7)

A failure that is classified is coded as cancelled if there is an interrupt anywhere among its causes,
and otherwise with the code it is given, whatever codes its causes have.  Notes put in front change
nothing, and no cause is lost.

Every failure of a run is classified where the run stops.  So the code of the failure tells the stage,
unless the run was interrupted, which can come up while a document is made, before the bindings are
rendered, or in the sink.  A pattern that turns out to be faulty while the directory is listed is coded
as a fault of the settings.
-/

set_option autoImplicit false

namespace RpcBindings

namespace Failure

/-! ## Chains of causes -/

/-- The failure, its cause, the cause of that, and so on. -/
def chain : Failure → List Failure
  | .noted note cause => .noted note cause :: cause.chain
  | .coded code path cause => .coded code path cause :: cause.chain
  | f => [f]

/-- There is an interrupt among the causes. -/
def HoldsInterrupt (f : Failure) : Prop := ∃ why, .interrupted why ∈ f.chain

/-- The code that the failure itself has, whatever its causes have. -/
def ownCode? : Failure → Option Code
  | .coded code _ _ => some code
  | _ => none

/-- The failure with notes in front of it. -/
def noteAll (notes : List Bytes) (f : Failure) : Failure := notes.foldr .noted f

section

variable (code : Code) (path text : Bytes) (f cause : Failure)

theorem mem_chain_self : f ∈ f.chain := by
  cases f <;> simp [chain]

theorem holdsInterrupt_noted_iff : (noted text cause).HoldsInterrupt ↔ cause.HoldsInterrupt := by
  simp [HoldsInterrupt, chain]

theorem holdsInterrupt_coded_iff : (coded code path cause).HoldsInterrupt ↔ cause.HoldsInterrupt := by
  simp [HoldsInterrupt, chain]

theorem isSome_interrupt?_iff : f.interrupt?.isSome = true ↔ f.HoldsInterrupt := by
  induction f with
  | noted text cause ih => rwa [holdsInterrupt_noted_iff]
  | coded code path cause ih => rwa [holdsInterrupt_coded_iff]
  | interrupted why => simp [HoldsInterrupt, chain, interrupt?, root]
  | _ => simp [HoldsInterrupt, chain, interrupt?, root]

instance : Decidable f.HoldsInterrupt := decidable_of_iff _ f.isSome_interrupt?_iff

/-- The code of a failure is the first one in its chain. -/
theorem code?_eq_findSome? : f.code? = f.chain.findSome? ownCode? := by
  induction f with
  | noted text cause ih => exact ih
  | _ => rfl

theorem code?_noteAll (notes : List Bytes) : (noteAll notes f).code? = f.code? := by
  induction notes with
  | nil => rfl
  | cons note notes ih => exact ih

theorem chain_suffix_noteAll (notes : List Bytes) : f.chain <:+ (noteAll notes f).chain := by
  induction notes with
  | nil => exact List.suffix_refl _
  | cons note notes ih => exact ih.trans (List.suffix_cons _ _)

/-! ## Classified failures -/

theorem code?_classify :
    (classify code path cause text).code? =
      some (if cause.HoldsInterrupt then Code.canceled else code) := by
  simp only [classify, isSome_interrupt?_iff]
  rfl

theorem chain_suffix_classify : cause.chain <:+ (classify code path cause text).chain := by
  have hnote : cause.chain <:+ (cause.note text).chain := by
    cases text with
    | nil => exact List.suffix_refl _
    | cons b text => exact List.suffix_cons _ _
  exact hnote.trans (List.suffix_cons _ _)

theorem holdsInterrupt_classify_iff :
    (classify code path cause text).HoldsInterrupt ↔ cause.HoldsInterrupt := by
  rw [classify, holdsInterrupt_coded_iff]
  cases text with
  | nil => rfl
  | cons b text => exact holdsInterrupt_noted_iff _ _

end

end Failure

namespace Generation

open RpcBindings.File (Disk Node)

/-! ## Codes of stages -/

theorem Stage.code_ne_canceled (stage : Stage) : stage.code ≠ Code.canceled := by
  cases stage <;> decide

/-- The failure has a code of its own: that of the stage, unless there is an interrupt. -/
theorem Stop.exists_failure_eq_coded (stop : Stop) :
    ∃ code inner, stop.failure = .coded code stop.path inner ∧
      (code = Code.canceled ↔ stop.failure.HoldsInterrupt) ∧
      (¬ stop.failure.HoldsInterrupt → code = stop.stage.code) := by
  refine ⟨_, _, rfl, ?_⟩
  rw [failure, Failure.holdsInterrupt_classify_iff, ← Failure.isSome_interrupt?_iff]
  cases stop.cause.interrupt?.isSome with
  | true => simp
  | false => simp [stop.stage.code_ne_canceled]

/-- A sink that fails whatever it is given. -/
def failing (cause : Failure) : Sink Unit := ⟨fun state allowance _ _ => ⟨.error cause, allowance, state⟩⟩

theorem schemaFiles_oneFile : schemaFiles oneFile "s" [] = .ok ["s/a"] := by
  rw [schemaFiles, list_oneFile]
  rfl

theorem exists_load_oneFile {allowance left : Allowance} (h : allowance.check = .ok left) :
    ∃ schema, load oneFile allowance "s" [] = (.ok schema, left) := by
  have hconform : ∀ file ∈ [Bytes.ofString "s/a"],
      ∃ data, oneFile.read file = .ok data ∧ Document.Conforms data :=
    List.forall_mem_singleton.mpr ⟨_, rfl, conforms_empty_object⟩
  obtain ⟨documents, hheld⟩ := exists_forall₂_holdsDocument_iff.mpr hconform
  exact ⟨_, load_eq_ok_iff.mpr ⟨_, documents, schemaFiles_oneFile, hheld, .check h .none, rfl⟩⟩

end Generation

end RpcBindings
