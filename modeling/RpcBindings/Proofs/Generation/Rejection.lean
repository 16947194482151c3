import RpcBindings.Generation.Job
import RpcBindings.Proofs.Generation.Stops
import RpcBindings.Proofs.Sink.Containment

/-!
# Options that were refused (SPEC §4.4, §8)

A job that was once given options that cannot be read is never carried out again.  Whatever calls come
after, to carry it out fails for the reason for which the latest such options were refused, and writes
nothing.  As long as no options were refused, to carry a job out never fails for such a reason, since no
stage of a run reads options.  And no call that carries a job out changes its settings.
-/

set_option autoImplicit false

namespace RpcBindings

open RpcBindings.File (Disk)
open RpcBindings.Generation (Report)

/-! ## Failures that are about options -/

namespace Failure

/-- The failure comes from options that cannot be read. -/
def IsRefusal (f : Failure) : Prop := ∃ refusal, f.root = .options refusal

@[simp] theorem root_classify (code : Code) (path : Bytes) (cause : Failure) (text : Bytes) :
    (classify code path cause text).root = cause.root := by
  cases text <;> rfl

end Failure

/-- The outcome is no failure that is about options. -/
def Unrefused {α : Type} (outcome : Except Failure α) : Prop :=
  ∀ f, outcome = .error f → ¬ f.IsRefusal

section

variable {α : Type}

@[simp] theorem unrefused_ok (a : α) : Unrefused (.ok a : Except Failure α) := by
  intro f hf
  cases hf

@[simp] theorem unrefused_error_iff {f : Failure} :
    Unrefused (.error f : Except Failure α) ↔ ¬ f.IsRefusal := by
  constructor
  · intro h
    exact h f rfl
  · rintro h _ ⟨⟩
    exact h

end

/-! ## Sinks -/

/-- The sink never fails for a reason that is about options. -/
def Sink.NeverRefuses {σ : Type} (sink : Sink σ) : Prop :=
  ∀ state allowance path content, Unrefused (sink.write state allowance path content).outcome

theorem Sink.enter_unrefused (allowance : Allowance) (path : Bytes) :
    Unrefused (Sink.enter allowance path) := by
  unfold Sink.enter
  split
  · simp [Failure.IsRefusal, Failure.root]
  · split
    · simp [Failure.IsRefusal, Failure.root]
    · exact unrefused_ok _

theorem Memory.sink_neverRefuses : Memory.sink.NeverRefuses := by
  intro m allowance path content
  simp only [Memory.sink]
  split
  · rename_i f henter
    exact unrefused_error_iff.mpr (Sink.enter_unrefused allowance path f henter)
  · exact unrefused_ok _

theorem Stream.append_unrefused (s : Stream) (content : Bytes) : Unrefused (s.append content) := by
  unfold Stream.append
  split
  · simp [Failure.IsRefusal, Failure.root]
  · exact unrefused_ok _

theorem Stream.sink_neverRefuses : Stream.sink.NeverRefuses := by
  intro s allowance path content
  simp only [Stream.sink]
  split
  · rename_i f henter
    exact unrefused_error_iff.mpr (Sink.enter_unrefused allowance path f henter)
  · split
    · rename_i f happend
      simpa [Failure.IsRefusal, Failure.root] using s.append_unrefused content f happend
    · exact unrefused_ok _

namespace Folder

theorem resolve_unrefused (f : Folder) (cwd path : Bytes) : Unrefused (f.resolve cwd path) := by
  unfold resolve
  simp only
  split
  · exact unrefused_ok _
  · simp [Failure.IsRefusal, Failure.root]

theorem place_unrefused (f : Folder) (d : Disk) (allowance : Allowance) (path full content : Bytes) :
    Unrefused (f.place d allowance path full content).outcome := by
  intro failure h
  rcases place_error_cases h with ⟨_, rfl⟩ | rfl | ⟨_, _, rfl⟩ <;>
    simp [Failure.IsRefusal, Failure.root]

theorem sink_neverRefuses (f : Folder) : f.sink.NeverRefuses := by
  intro d allowance path content
  show Unrefused (f.write d allowance path content).outcome
  unfold write
  split
  · rename_i failure henter
    exact unrefused_error_iff.mpr (Sink.enter_unrefused allowance path failure henter)
  · split
    · rename_i failure hresolve
      exact unrefused_error_iff.mpr (f.resolve_unrefused d.cwdPath path failure hresolve)
    · split
      · simp [Failure.IsRefusal, Failure.root]
      · exact f.place_unrefused _ _ _ _ _

end Folder

/-! ## Runs -/

namespace Generation

/-- No stage of a run reads options, so a run stops for a reason that is about them only if its sink
fails for one. -/
theorem Stops.not_isRefusal_cause {σ : Type} {d : Disk} {sink : Sink σ} {state : σ}
    {allowance : Allowance} {settings : Settings} {stop : Stop} (hsink : sink.NeverRefuses)
    (h : Stops d (some sink) state allowance settings stop) : ¬ stop.cause.IsRefusal := by
  cases h with
  | settings _ => simp [Failure.IsRefusal, Failure.root]
  | load _ hload =>
      cases hload with
      | file _ _ _ hfile => cases hfile <;> simp [Failure.IsRefusal, Failure.root]
      | list hlist =>
          cases hlist with
          | list _ => simp [Failure.IsRefusal, Failure.root]
          | entry _ _ hentry => cases hentry <;> simp [Failure.IsRefusal, Failure.root]
  | deliver _ _ hdelivery =>
      cases hdelivery with
      | noSink hnone => cases hnone
      | interrupt _ _ => simp [Failure.IsRefusal, Failure.root]
      | write hgiven _ hfails =>
          cases hgiven
          simpa [Failure.IsRefusal, Failure.root] using hsink _ _ _ _ _ hfails

theorem runTo_unrefused {σ : Type} {sink : Sink σ} (hsink : sink.NeverRefuses) (d : Disk) (state : σ)
    (allowance : Allowance) (settings : Settings) :
    Unrefused (runTo d (some sink) state allowance settings).outcome := by
  intro f hf
  obtain ⟨stop, hstop, rfl⟩ := outcome_runTo_eq_error_iff.mp hf
  simpa [Failure.IsRefusal, Stop.failure] using hstop.not_isRefusal_cause hsink

theorem run_unrefused (d : Disk) (allowance : Allowance) (settings : Settings) :
    Unrefused (run d allowance settings).outcome := by
  unfold run
  split
  · simp [Failure.IsRefusal, Failure.root]
  · exact runTo_unrefused (Folder.sink_neverRefuses _) d d allowance settings

end Generation

/-! ## Calls on a job -/

namespace Job

/-- The calls that set something, options apart. -/
inductive Setter where
  | allowance (allowance : Allowance)
  | pattern (pattern : Bytes)
  | servicesPath (path : Bytes)
  | clientPath (path : Bytes)
  | schemaPath (path : Bytes)
  | indentSize (n : Int)
  | showResponses
  | frontmatter (content : Bytes)

/-- The job after a call that sets something. -/
def set (j : Job) : Setter → Job
  | .allowance allowance => j.setAllowance allowance
  | .pattern pattern => j.setPattern pattern
  | .servicesPath path => j.setServicesPath path
  | .clientPath path => j.setClientPath path
  | .schemaPath path => j.setSchemaPath path
  | .indentSize n => j.setIndentSize n
  | .showResponses => j.showResponses
  | .frontmatter content => j.setFrontmatter content

/-- What a call can write to. -/
structure World where
  disk : Disk
  stream : Stream

/-- The calls that carry a job out. -/
inductive Terminal where
  | toFile (path : Bytes)
  | toStream
  | inMemory

/-- What is left after a call that carries a job out. -/
structure Carried where
  outcome : Except Failure Report
  job : Job
  world : World

/-- Carries a job out. -/
def carryOut (j : Job) (w : World) : Terminal → Carried
  | .toFile path =>
      let done := j.toFile w.disk path
      ⟨done.outcome, done.job, { w with disk := done.state }⟩
  | .toStream =>
      let done := j.toStream w.disk w.stream
      ⟨done.outcome, done.job, { w with stream := done.state }⟩
  | .inMemory =>
      let result := j.inMemory w.disk
      ⟨result.1, result.2, w⟩

/-- A call on a job.  A call that carries it out finds the world as it is then. -/
inductive Call where
  | set (setter : Setter)
  | options (text : Bytes)
  | carryOut (w : World) (terminal : Terminal)

/-- The job after a call. -/
def take (j : Job) : Call → Job
  | .set setter => j.set setter
  | .options text => j.addOptions text
  | .carryOut w terminal => (j.carryOut w terminal).job

/-- The job for a directory after calls. -/
def after (dir : Bytes) (calls : List Call) : Job := calls.foldl take (fromDir dir)

/-- Why the options of a call were refused, if they were. -/
def Call.refusal? : Call → Option Options.Refusal
  | .options text =>
      match Options.parse text with
      | .error refusal => some refusal
      | .ok _ => none
  | _ => none

/-- Why options were refused, in the order of the calls. -/
def refusals (calls : List Call) : List Options.Refusal := calls.filterMap Call.refusal?

/-! ## What one call does -/

@[simp] theorem rejected_set (j : Job) (setter : Setter) : (j.set setter).rejected = j.rejected := by
  cases setter <;> rfl

theorem addOptions_of_error {j : Job} {text : Bytes} {refusal : Options.Refusal}
    (h : Options.parse text = .error refusal) :
    j.addOptions text = { j with rejected := some (.ofRefusal refusal) } := by
  rw [addOptions, h]

theorem carryOut_of_rejected {j : Job} {f : Failure} (h : j.rejected = some f) (w : World)
    (terminal : Terminal) : j.carryOut w terminal = ⟨.error f, j, w⟩ := by
  cases terminal <;> simp only [carryOut, toFile, toStream, inMemory, h]

/-- To carry a job out uses its allowance up and changes nothing else of it. -/
theorem exists_job_carryOut (j : Job) (w : World) (terminal : Terminal) :
    ∃ allowance, (j.carryOut w terminal).job = { j with allowance } := by
  cases hrejected : j.rejected with
  | some f =>
      refine ⟨j.allowance, ?_⟩
      rw [carryOut_of_rejected hrejected, ← hrejected]
  | none =>
      cases terminal <;> simp only [carryOut, toFile, toStream, inMemory, hrejected, done] <;>
        exact ⟨_, by rw [← hrejected]⟩

theorem withContent_unrefused {delivered : Generation.Delivered Report Memory}
    (h : Unrefused delivered.outcome) : Unrefused (withContent delivered) := by
  unfold withContent
  split
  · rename_i f hf
    rwa [hf] at h
  · exact unrefused_ok _

theorem carryOut_unrefused {j : Job} (h : j.rejected = none) (w : World) (terminal : Terminal) :
    Unrefused (j.carryOut w terminal).outcome := by
  cases terminal with
  | toFile path =>
      simp only [carryOut, toFile, h]
      exact Generation.run_unrefused w.disk j.allowance _
  | toStream =>
      simp only [carryOut, toStream, h]
      exact Generation.runTo_unrefused Stream.sink_neverRefuses w.disk w.stream j.allowance j.settings
  | inMemory =>
      simp only [carryOut, inMemory, h]
      exact withContent_unrefused
        (Generation.runTo_unrefused Memory.sink_neverRefuses w.disk Memory.empty j.allowance j.settings)

/-- A call that refuses options makes its reason the one that counts; no other call changes it. -/
theorem rejected_take (j : Job) (call : Call) :
    (j.take call).rejected = (call.refusal?.map Failure.ofRefusal).or j.rejected := by
  cases call with
  | set setter => exact j.rejected_set setter
  | options text =>
      simp only [take, addOptions, Call.refusal?]
      cases Options.parse text <;> rfl
  | carryOut w terminal =>
      obtain ⟨allowance, hjob⟩ := j.exists_job_carryOut w terminal
      simp only [take, hjob, Call.refusal?]
      rfl

/-! ## What calls do one after another -/

theorem rejected_foldl (j : Job) (calls : List Call) :
    (calls.foldl take j).rejected =
      ((refusals calls).getLast?.map Failure.ofRefusal).or j.rejected := by
  induction calls generalizing j with
  | nil => rfl
  | cons call rest ih =>
      rw [List.foldl_cons, ih, rejected_take]
      cases hcall : call.refusal? with
      | none =>
          have hrest : refusals (call :: rest) = refusals rest := List.filterMap_cons_none hcall
          rw [hrest]
          rfl
      | some refusal =>
          have hrest : refusals (call :: rest) = refusal :: refusals rest :=
            List.filterMap_cons_some hcall
          rw [hrest, List.getLast?_cons]
          cases (refusals rest).getLast? <;> rfl

/-- The reason that counts is that of the latest options that were refused. -/
theorem rejected_after (dir : Bytes) (calls : List Call) :
    (after dir calls).rejected = (refusals calls).getLast?.map Failure.ofRefusal := by
  rw [after, rejected_foldl]
  exact Option.or_none

/-- After any calls on a job, options that are refused leave its settings alone, and so does every call
that carries it out.  If options were refused, each such call fails for the latest reason and writes
nothing; if none were, none fails for a reason that is about options. -/
theorem refused_options_latch (dir : Bytes) (calls : List Call) :
    let job := after dir calls
    (∀ text refusal, Options.parse text = .error refusal →
      (job.addOptions text).settings = job.settings) ∧
    ∀ w terminal,
      let result := job.carryOut w terminal
      result.job.settings = job.settings ∧
      (∀ refusal, (refusals calls).getLast? = some refusal →
        result.outcome = .error (.ofRefusal refusal) ∧ result.world = w) ∧
      (refusals calls = [] → ∀ f, result.outcome = .error f → ¬ f.IsRefusal) := by
  intro job
  have hrejected : job.rejected = _ := rejected_after dir calls
  refine ⟨?_, ?_⟩
  · intro text refusal hparse
    rw [addOptions_of_error hparse]
  · intro w terminal result
    refine ⟨?_, ?_, ?_⟩
    · obtain ⟨allowance, hjob⟩ := job.exists_job_carryOut w terminal
      show (job.carryOut w terminal).job.settings = job.settings
      rw [hjob]
    · intro refusal hlast
      rw [hlast] at hrejected
      have hresult : result = _ := carryOut_of_rejected hrejected w terminal
      rw [hresult]
      exact ⟨rfl, rfl⟩
    · intro hnone
      rw [hnone] at hrejected
      exact carryOut_unrefused hrejected w terminal

/-- Options without a value are refused.  Later options that can be read, and a frontmatter, change the
settings; but the job fails for the first reason, and the stream that takes everything gets nothing. -/
theorem refused_options_latch_indent :
    let calls : List Call :=
      [.options "indent_size", .set (.frontmatter "// x"), .options "output_file=a.rs"]
    (refusals calls).getLast? = some (.notPair "indent_size") ∧
      (after "s" calls).settings.outputFile = Bytes.ofString "a.rs" ∧
      ∀ d : Disk,
        let result := (after "s" calls).carryOut ⟨d, .accepting⟩ .toStream
        result.outcome = .error (.ofRefusal (.notPair "indent_size")) ∧
          result.world.stream.written = [] := by
  intro calls
  have hlast : (refusals calls).getLast? = some (.notPair "indent_size") := by decide +kernel
  refine ⟨hlast, by decide +kernel, ?_⟩
  intro d result
  obtain ⟨-, hcarry⟩ := refused_options_latch "s" calls
  obtain ⟨-, hfails, -⟩ := hcarry ⟨d, .accepting⟩ .toStream
  obtain ⟨houtcome, hworld⟩ := hfails _ hlast
  exact ⟨houtcome, by rw [hworld]; rfl⟩

end Job

end RpcBindings
