import RpcBindings.Generation.Run
import RpcBindings.Proofs.Generation.Loading
import RpcBindings.Sink.Memory

/-!
# All or nothing (SPEC §4.4)

A run comes to its sink once or never, and only after all that can go wrong before has gone well.  So
what a run does before its sink is told apart from what it does with the answer of the sink.  Which
calls a run makes is seen with a recording sink, which does what another sink does and notes each call.
-/

set_option autoImplicit false

namespace RpcBindings

open RpcBindings.File (Disk)

/-! ## Valid settings -/

namespace Settings

theorem faults_eq_nil_iff {s : Settings} :
    s.faults = [] ↔ ∀ f, s.withDefaults.objection? f = none := by
  have hall : ∀ f, f ∈ fields := by
    intro f
    cases f <;> decide
  simp [faults, hall]

theorem outputFault?_of_faults {s : Settings} (h : s.faults = []) :
    Path.outputFault? s.withDefaults.outputFile = none := by
  have hfile := faults_eq_nil_iff.mp h .outputFile
  simpa [objection?] using hfile

/-- Defaults are filled in once: a second time changes nothing. -/
theorem orElse_withDefaults_outputFile (s : Settings) :
    orElse s.withDefaults.outputFile defaultOutputFile = s.withDefaults.outputFile := by
  have hdefault : defaultOutputFile ≠ [] := by decide
  unfold withDefaults orElse
  split_ifs <;> simp_all

end Settings

/-! ## Recorded calls -/

/-- A call of a sink: what it was given, and what came of it. -/
structure Call where
  allowance : Allowance
  path : Bytes
  content : Bytes
  outcome : Except Failure Unit

/-- The sink that does what another one does and notes every call. -/
def Sink.recording {σ : Type} (sink : Sink σ) : Sink (σ × List Call) where
  write state allowance path content :=
    let attempt := sink.write state.1 allowance path content
    ⟨attempt.outcome, attempt.allowance,
      (attempt.state, state.2 ++ [⟨allowance, path, content, attempt.outcome⟩])⟩

namespace Generation

open RpcBindings.Document (Conforms member?_eq_some_iff)

theorem validate_eq_ok_iff {settings : Settings} : validate settings = .ok () ↔ settings.faults = [] := by
  unfold validate
  cases settings.faults <;> simp

/-! ## Before the sink and after it -/

/-- What a run does before it comes to its sink. -/
def prepare (d : Disk) (allowance : Allowance) (settings : Settings) : Outcome Schema :=
  match validate settings with
  | .error f => (.error f, allowance)
  | .ok () =>
      match load d allowance settings.withDefaults.schemaDir settings.withDefaults.pattern with
      | (.error f, left) => (.error f, left)
      | (.ok schema, left) =>
          match left.check with
          | .error why =>
              (.error (Failure.classify Code.sink settings.withDefaults.outputFile
                (.interrupted why) []), left)
          | .ok left => (.ok schema, left)

/-- What a run makes of the answer of its sink. -/
def verdict (settings : Settings) (schema : Schema) : Except Failure Unit → Except Failure Report
  | .error f =>
      .error (Failure.classify Code.sink settings.withDefaults.outputFile
        (.noted ("failed to write " ++ settings.withDefaults.outputFile) f) [])
  | .ok () =>
      .ok (report schema
        ⟨[⟨settings.withDefaults.outputFile,
          (Binding.text settings.withDefaults.setup schema).length⟩], Binding.tally schema⟩)

theorem exists_verdict_eq_ok_iff {settings : Settings} {schema : Schema}
    {outcome : Except Failure Unit} :
    (∃ report, verdict settings schema outcome = .ok report) ↔ outcome = .ok () := by
  cases outcome with
  | error f => simp [verdict]
  | ok written => simp [verdict]

theorem exists_error_of_verdict {settings : Settings} {schema : Schema}
    {outcome : Except Failure Unit} {f : Failure} (h : verdict settings schema outcome = .error f) :
    ∃ g, outcome = .error g := by
  cases outcome with
  | error g => exact ⟨g, rfl⟩
  | ok written => simp [verdict] at h

theorem files_of_verdict {settings : Settings} {schema : Schema} {outcome : Except Failure Unit}
    {report : Report} (h : verdict settings schema outcome = .ok report) :
    report.files = [⟨settings.withDefaults.outputFile,
      (Binding.text settings.withDefaults.setup schema).length⟩] := by
  cases outcome with
  | error f => simp [verdict] at h
  | ok written =>
      obtain rfl := Except.ok.inj h
      rfl

/-- A run is a preparation, one call of the sink if that went well, and a verdict. -/
theorem runTo_eq {σ : Type} (d : Disk) (sink : Sink σ) (state : σ) (allowance : Allowance)
    (settings : Settings) :
    runTo d (some sink) state allowance settings =
      match prepare d allowance settings with
      | (.error f, left) => ⟨.error f, left, state⟩
      | (.ok schema, left) =>
          let attempt := sink.write state left settings.withDefaults.outputFile
            (Binding.text settings.withDefaults.setup schema)
          ⟨verdict settings schema attempt.outcome, attempt.allowance, attempt.state⟩ := by
  unfold runTo prepare
  cases validate settings with
  | error f => rfl
  | ok valid =>
      dsimp only
      rcases load d allowance settings.withDefaults.schemaDir settings.withDefaults.pattern with
        ⟨f | schema, left⟩
      · rfl
      · simp only [deliver?, deliver, Settings.orElse_withDefaults_outputFile]
        cases left.check with
        | error why => rfl
        | ok left =>
            dsimp only
            cases (sink.write state left settings.withDefaults.outputFile
              (Binding.text settings.withDefaults.setup schema)).outcome with
            | error f => rfl
            | ok written => rfl

/-- Without a sink a run fails, and there is nothing that it could have changed. -/
theorem runTo_none {σ : Type} (d : Disk) (state : σ) (allowance : Allowance) (settings : Settings) :
    (∃ f, (runTo d none state allowance settings).outcome = .error f) ∧
      (runTo d none state allowance settings).state = state := by
  unfold runTo
  cases validate settings with
  | error f => exact ⟨⟨f, rfl⟩, rfl⟩
  | ok valid =>
      dsimp only
      rcases load d allowance settings.withDefaults.schemaDir settings.withDefaults.pattern with
        ⟨f | schema, left⟩
      · exact ⟨⟨f, rfl⟩, rfl⟩
      · exact ⟨⟨_, rfl⟩, rfl⟩

/-- What has to be so for a run to come to its sink with the bindings of documents and an allowance:
the settings are valid, the directory can be listed, each file in it holds its document, and a check
passes for each file and once more. -/
structure Ready (d : Disk) (allowance : Allowance) (settings : Settings)
    (documents : List Document) (left : Allowance) : Prop where
  valid : settings.faults = []
  listed : ∃ files, schemaFiles d settings.schemaDir settings.pattern = .ok files ∧
    List.Forall₂ (HoldsDocument d) files documents
  passes : allowance.Passes (documents.length + 1) left

theorem prepare_eq_ok_iff {d : Disk} {allowance left : Allowance} {settings : Settings}
    {schema : Schema} :
    prepare d allowance settings = (.ok schema, left) ↔
      ∃ documents, Ready d allowance settings documents left ∧
        schema = Schema.ofDocuments documents := by
  unfold prepare validate
  constructor
  · intro h
    cases hfaults : settings.faults with
    | cons fault faults => simp [hfaults] at h
    | nil =>
        simp only [hfaults] at h
        rcases hload : load d allowance settings.withDefaults.schemaDir
          settings.withDefaults.pattern with ⟨f | loaded, next⟩
        · simp [hload] at h
        · cases hcheck : next.check with
          | error why => simp [hload, hcheck] at h
          | ok last =>
              obtain ⟨rfl, rfl⟩ : loaded = schema ∧ last = left := by
                simpa [hload, hcheck] using h
              obtain ⟨files, documents, hfiles, hholds, hpasses, rfl⟩ := load_eq_ok_iff.mp hload
              rw [hholds.length_eq] at hpasses
              exact ⟨documents, ⟨hfaults, ⟨files, hfiles, hholds⟩,
                Allowance.passes_succ_iff_last.mpr ⟨next, hpasses, hcheck⟩⟩, rfl⟩
  · rintro ⟨documents, ⟨hfaults, ⟨files, hfiles, hholds⟩, hpasses⟩, rfl⟩
    obtain ⟨next, hnext, hcheck⟩ := Allowance.passes_succ_iff_last.mp hpasses
    rw [← hholds.length_eq] at hnext
    have hload : load d allowance settings.withDefaults.schemaDir settings.withDefaults.pattern =
        (.ok (Schema.ofDocuments documents), next) :=
      load_eq_ok_iff.mpr ⟨files, documents, hfiles, hholds, hnext, rfl⟩
    simp only [hfaults, hload, hcheck]

section

variable {σ : Type} {d : Disk} {allowance left : Allowance} {settings : Settings}
  {documents : List Document}

theorem runTo_of_ready (h : Ready d allowance settings documents left) (sink : Sink σ) (state : σ) :
    runTo d (some sink) state allowance settings =
      let schema := Schema.ofDocuments documents
      let attempt := sink.write state left settings.withDefaults.outputFile
        (Binding.text settings.withDefaults.setup schema)
      ⟨verdict settings schema attempt.outcome, attempt.allowance, attempt.state⟩ := by
  rw [runTo_eq, prepare_eq_ok_iff.mpr ⟨documents, h, rfl⟩]

/-- A run with its calls recorded goes as it does without, and there is one call. -/
theorem runTo_recording_of_ready (h : Ready d allowance settings documents left) (sink : Sink σ)
    (state : σ) :
    runTo d (some sink.recording) (state, []) allowance settings =
      let run := runTo d (some sink) state allowance settings
      let path := settings.withDefaults.outputFile
      let content := Binding.text settings.withDefaults.setup (Schema.ofDocuments documents)
      ⟨run.outcome, run.allowance,
        (run.state, [⟨left, path, content, (sink.write state left path content).outcome⟩])⟩ := by
  rw [runTo_of_ready h, runTo_of_ready h]
  rfl

/-- A run that is not ready fails in a way that has nothing to do with its sink. -/
theorem runTo_of_not_ready (h : ¬ ∃ documents left, Ready d allowance settings documents left) :
    ∃ f rest, ∀ {σ : Type} (sink : Sink σ) (state : σ),
      runTo d (some sink) state allowance settings = ⟨.error f, rest, state⟩ := by
  rcases hprepare : prepare d allowance settings with ⟨f | schema, rest⟩
  · refine ⟨f, rest, ?_⟩
    intro σ sink state
    rw [runTo_eq, hprepare]
  · obtain ⟨documents, hready, -⟩ := prepare_eq_ok_iff.mp hprepare
    exact absurd ⟨documents, rest, hready⟩ h

/-! ## Into memory -/

/-- A run into an empty memory that passes `n` checks: each document costs one, delivering the
bindings costs one, and the memory looks once more. -/
theorem runTo_memory {files : List Bytes} (hvalid : settings.faults = [])
    (hfiles : schemaFiles d settings.schemaDir settings.pattern = .ok files)
    (hconform : ∀ file ∈ files, ∃ data, d.read file = .ok data ∧ Conforms data) (n : Nat)
    (why : Interrupt) :
    let run := runTo d (some Memory.sink) Memory.empty (.checks n why) settings
    ((∃ report, run.outcome = .ok report) ↔ files.length + 2 ≤ n) ∧
      (run.state = Memory.empty ↔ n < files.length + 2) := by
  obtain ⟨documents, hholds⟩ := exists_forall₂_holdsDocument_iff.mpr hconform
  obtain hn | hn := Nat.lt_or_ge n (files.length + 1)
  · have hnot : ¬ ∃ documents left, Ready d (.checks n why) settings documents left := by
      rintro ⟨others, left, -, ⟨_, hlisted, hothers⟩, hpasses⟩
      obtain rfl := Except.ok.inj (hfiles.symm.trans hlisted)
      have hle := (Allowance.passes_checks_iff.mp hpasses).1
      rw [← hothers.length_eq] at hle
      omega
    obtain ⟨f, rest, hrun⟩ := runTo_of_not_ready hnot
    have hshort : n < files.length + 2 := by omega
    simp [hrun, hshort]
  · obtain ⟨k, rfl⟩ := Nat.exists_eq_add_of_le hn
    have hready : Ready d (.checks (files.length + 1 + k) why) settings documents
        (.checks k why) := by
      refine ⟨hvalid, ⟨files, hfiles, hholds⟩, Allowance.passes_checks_iff.mpr ?_⟩
      rw [← hholds.length_eq]
      exact ⟨hn, by rw [Nat.add_sub_cancel_left]⟩
    simp only [runTo_of_ready hready, exists_verdict_eq_ok_iff, Memory.sink, Sink.enter,
      Settings.outputFault?_of_faults hvalid]
    cases k with
    | zero => simp [Allowance.check]
    | succ k =>
        have henough : files.length + 2 ≤ files.length + 1 + (k + 1) := by omega
        simp [Allowance.check, Memory.put, Memory.empty, henough]

end

theorem conforms_empty_object : Conforms "\x7b\x7d" :=
  ⟨_, Json.parse?_eq_some_iff.mp rfl, _, rfl, by simp⟩

/-- A directory `s` with two documents, the first of them empty. -/
def twoDocuments : Disk :=
  { tree := ⟨[(["s"], .folder), (["s", "a.json"], .file 0o644 "\x7b\x7d"),
      (["s", "b.json"], .file 0o644
        "\x7b\"S\":\x7b\"classes\":\x7b\x7d,\"enumerations\":\x7b\x7d,
          \"procedures\":\x7b\x7d\x7d\x7d")]⟩
    cwd := [] }

theorem schemaFiles_twoDocuments :
    schemaFiles twoDocuments "s" [] = .ok ["s/a.json", "s/b.json"] := by
  have hlist : ∃ children, twoDocuments.list "s" = .ok children ∧
      selectFiles twoDocuments "s" [] children = .ok ["s/a.json", "s/b.json"] :=
    ⟨_, congrArg Except.ok (List.mergeSort_of_pairwise (by decide)), by decide⟩
  obtain ⟨children, hlist, hselect⟩ := hlist
  rw [schemaFiles, hlist]
  exact hselect

end Generation

end RpcBindings
