import RpcBindings.Proofs.Generation.Delivery
import RpcBindings.Proofs.Generation.Selection

/-!
# Where a run stops (SPEC §4.4, §7)

A run that fails has stopped somewhere.  The places where it can stop are listed here, each with what has
to have gone well before and with the stage it belongs to: there is a relation for the entries of the
directory, one for its listing, one for a file, one for loading, one for delivering, and one for the run.
A run fails exactly if it stops in one of these ways, and the failure is the one that belongs to it.
-/

set_option autoImplicit false

namespace RpcBindings.Generation

open RpcBindings.File (Disk Node)

/-! ## Stages -/

/-- The stages of a run. -/
inductive Stage where
  /-- Validating the settings. -/
  | validation
  /-- Listing the directory, looking its entries up, and reading the files. -/
  | reading
  /-- Matching the name of an entry with the pattern, while the directory is listed. -/
  | matching
  /-- Making a document out of a file. -/
  | parsing
  /-- Rendering the bindings and writing them. -/
  | delivery
  deriving DecidableEq, Repr, Inhabited

/-- The code of a stage. -/
def Stage.code : Stage → Code
  | .validation => Code.config
  | .reading => Code.io
  | .matching => Code.config
  | .parsing => Code.schema
  | .delivery => Code.sink

/-- Where a run stops: the stage, the file that is concerned, the cause, and what was being done. -/
structure Stop where
  stage : Stage
  path : Bytes
  cause : Failure
  text : Bytes

/-- The failure of a run that stops there. -/
def Stop.failure (stop : Stop) : Failure :=
  Failure.classify stop.stage.code stop.path stop.cause stop.text

/-! ## Ways to stop -/

/-- A run stops at an entry of the directory: no answer can be given whether the pattern matches its
name; or it does, and the entry cannot be looked up.  Directories are passed over. -/
inductive EntryStops (d : Disk) (dir pattern name : Bytes) (node : Node) : Stop → Prop where
  | pattern {fault : Glob.Fault} (entry : node ≠ .folder)
      (fails : Glob.matches? pattern name = .error fault) :
      EntryStops d dir pattern name node
        ⟨.matching, [], .glob fault, "invalid pattern " ++ quote pattern⟩
  | stat {fault : File.Fault} (entry : node ≠ .folder)
      (taken : Admits pattern name)
      (fails : d.stat (Path.join dir name) = .error fault) :
      EntryStops d dir pattern name node
        ⟨.reading, Path.join dir name, .file fault, "failed to stat schema"⟩

/-- A run stops while it looks for schema files: the directory cannot be listed, or the run stops at an
entry and at none before it. -/
inductive ListStops (d : Disk) (dir pattern : Bytes) : Stop → Prop where
  | list {fault : File.Fault} (fails : d.list dir = .error fault) :
      ListStops d dir pattern ⟨.reading, dir, .file fault, "failed to list schema directory"⟩
  | entry {before after : List (Bytes × Node)} {name : Bytes} {node : Node} {stop : Stop}
      (listed : d.list dir = .ok (before ++ (name, node) :: after))
      (passed : ∀ e ∈ before, ¬ ∃ stop, EntryStops d dir pattern e.1 e.2 stop)
      (fails : EntryStops d dir pattern name node stop) : ListStops d dir pattern stop

/-- A run stops at a schema file: it cannot be read, the run is interrupted, or the file is no
document. -/
inductive FileStops (d : Disk) (allowance : Allowance) (file : Bytes) : Stop → Prop where
  | read {fault : File.Fault} (fails : d.read file = .error fault) :
      FileStops d allowance file ⟨.reading, file, .file fault, "failed to read schema"⟩
  | interrupt {data : Bytes} {why : Interrupt} (read : d.read file = .ok data)
      (fails : allowance.check = .error why) :
      FileStops d allowance file
        ⟨.parsing, file, .noted ("building " ++ file) (.interrupted why), []⟩
  | document {data : Bytes} {next : Allowance} {v : Document.Violation} (read : d.read file = .ok data)
      (passes : allowance.check = .ok next) (fails : Document.read file data = .error v) :
      FileStops d allowance file ⟨.parsing, file, .violation v, []⟩

/-- A run stops while it loads a schema: it stops while it looks for schema files, or at one of them with
all before it holding documents. -/
inductive LoadStops (d : Disk) (allowance : Allowance) (dir pattern : Bytes) : Stop → Prop where
  | list {stop : Stop} (fails : ListStops d dir pattern stop) : LoadStops d allowance dir pattern stop
  | file {before after : List Bytes} {file : Bytes} {documents : List Document} {left : Allowance}
      {stop : Stop} (listed : schemaFiles d dir pattern = .ok (before ++ file :: after))
      (held : List.Forall₂ (HoldsDocument d) before documents)
      (passes : allowance.Passes before.length left) (fails : FileStops d left file stop) :
      LoadStops d allowance dir pattern stop

/-- A run stops while it delivers the bindings of a schema: there is no sink, the run is interrupted, or
the sink fails. -/
inductive DeliveryStops {σ : Type} (sink : Option (Sink σ)) (state : σ) (allowance : Allowance)
    (settings : Settings) (schema : Schema) : Stop → Prop where
  | noSink (missing : sink = none) :
      DeliveryStops sink state allowance settings schema
        ⟨.delivery, settings.withDefaults.outputFile, .noSink, []⟩
  | interrupt {given : Sink σ} {why : Interrupt} (there : sink = some given)
      (fails : allowance.check = .error why) :
      DeliveryStops sink state allowance settings schema
        ⟨.delivery, settings.withDefaults.outputFile, .interrupted why, []⟩
  | write {given : Sink σ} {next : Allowance} {cause : Failure} (there : sink = some given)
      (passes : allowance.check = .ok next)
      (fails : (given.write state next settings.withDefaults.outputFile
        (Binding.text settings.withDefaults.setup schema)).outcome = .error cause) :
      DeliveryStops sink state allowance settings schema
        ⟨.delivery, settings.withDefaults.outputFile,
          .noted ("failed to write " ++ settings.withDefaults.outputFile) cause, []⟩

/-- A run stops: its settings are not valid, or it stops while it loads the schema or delivers the
bindings. -/
inductive Stops {σ : Type} (d : Disk) (sink : Option (Sink σ)) (state : σ) (allowance : Allowance)
    (settings : Settings) : Stop → Prop where
  | settings (fails : settings.faults ≠ []) :
      Stops d sink state allowance settings ⟨.validation, [], .settings settings.faults, []⟩
  | load {stop : Stop} (valid : settings.faults = [])
      (fails : LoadStops d allowance settings.schemaDir settings.pattern stop) :
      Stops d sink state allowance settings stop
  | deliver {schema : Schema} {left : Allowance} {stop : Stop} (valid : settings.faults = [])
      (loaded : load d allowance settings.schemaDir settings.pattern = (.ok schema, left))
      (fails : DeliveryStops sink state left settings schema stop) :
      Stops d sink state allowance settings stop

section

variable {d : Disk} {dir pattern name file : Bytes} {node : Node} {allowance : Allowance} {f : Failure}

/-! ## Entries and files -/

theorem matches?_nil (name : Bytes) : Glob.matches? [] name = .ok name.isEmpty := rfl

theorem takes_eq_error_iff :
    takes pattern name = .error f ↔
      ∃ fault, Glob.matches? pattern name = .error fault ∧
        f = Failure.classify Code.config [] (.glob fault) ("invalid pattern " ++ quote pattern) := by
  unfold takes
  by_cases hempty : pattern = []
  · simp [hempty, matches?_nil]
  · rw [if_neg hempty]
    cases Glob.matches? pattern name with
    | ok answer => simp
    | error fault =>
        constructor
        · rintro ⟨⟩
          exact ⟨fault, rfl, rfl⟩
        · rintro ⟨_, ⟨⟩, rfl⟩
          rfl

theorem schemaFile?_eq_error_iff :
    schemaFile? d dir pattern name node = .error f ↔
      ∃ stop, EntryStops d dir pattern name node stop ∧ f = stop.failure := by
  by_cases hfolder : node = .folder
  · simp only [hfolder, schemaFile?, Node.isFolder, if_true, reduceCtorEq, false_iff]
    rintro ⟨stop, ⟨hentry, -⟩ | ⟨hentry, -, -⟩, -⟩ <;> exact hentry rfl
  · have hnode : ¬ node.isFolder = true := by
      cases node <;> simp_all [Node.isFolder]
    rw [schemaFile?, if_neg hnode]
    constructor
    · intro h
      cases htakes : takes pattern name with
      | error g =>
          obtain ⟨fault, hfault, rfl⟩ := takes_eq_error_iff.mp htakes
          simp only [htakes, Except.error.injEq] at h
          exact ⟨_, .pattern hfolder hfault, h.symm⟩
      | ok answer =>
          cases answer with
          | false => simp [htakes] at h
          | true =>
              cases hstat : d.stat (Path.join dir name) with
              | ok found => simp [htakes, hstat] at h
              | error fault =>
                  simp only [htakes, hstat, Except.error.injEq] at h
                  exact ⟨_, .stat hfolder (takes_eq_true_iff.mp htakes) hstat, h.symm⟩
    · rintro ⟨stop, hstop, rfl⟩
      cases hstop with
      | pattern _ hfault =>
          simp only [takes_eq_error_iff.mpr ⟨_, hfault, rfl⟩]
          rfl
      | stat _ htaken hstat =>
          simp only [takes_eq_true_iff.mpr htaken, hstat]
          rfl

theorem exists_schemaFile?_eq_ok_iff :
    (∃ file?, schemaFile? d dir pattern name node = .ok file?) ↔
      ¬ ∃ stop, EntryStops d dir pattern name node stop := by
  have herror := @schemaFile?_eq_error_iff d dir pattern name node
  cases hfile? : schemaFile? d dir pattern name node with
  | ok file? =>
      have hnone : ¬ ∃ stop, EntryStops d dir pattern name node stop := by
        rintro ⟨stop, hstop⟩
        simpa [hfile?] using herror.mpr ⟨stop, hstop, rfl⟩
      simpa using hnone
  | error f =>
      obtain ⟨stop, hstop, -⟩ := herror.mp hfile?
      simpa using ⟨stop, hstop⟩

/-- Selecting files fails as the first entry does that fails. -/
theorem selectFiles_eq_error_iff {entries : List (Bytes × Node)} :
    selectFiles d dir pattern entries = .error f ↔
      ∃ before e after, entries = before ++ e :: after ∧
        (∀ b ∈ before, ∃ file?, schemaFile? d dir pattern b.1 b.2 = .ok file?) ∧
        schemaFile? d dir pattern e.1 e.2 = .error f := by
  induction entries with
  | nil => simp [selectFiles]
  | cons e entries ih =>
      obtain ⟨name, node⟩ := e
      rw [selectFiles]
      constructor
      · intro h
        split at h
        · rename_i g hg
          cases h
          exact ⟨[], (name, node), entries, rfl, by simp, hg⟩
        · rename_i file? hfile?
          split at h
          · rename_i g hg
            cases h
            obtain ⟨before, e, after, rfl, hbefore, he⟩ := ih.mp hg
            exact ⟨(name, node) :: before, e, after, rfl,
              List.forall_mem_cons.mpr ⟨⟨file?, hfile?⟩, hbefore⟩, he⟩
          · cases h
      · rintro ⟨before, e, after, hentries, hbefore, he⟩
        cases before with
        | nil =>
            obtain ⟨rfl, -⟩ := List.cons.inj hentries
            simp only [he]
        | cons first before =>
            obtain ⟨rfl, htail⟩ := List.cons.inj hentries
            rw [List.forall_mem_cons] at hbefore
            obtain ⟨⟨file?, hfile?⟩, hrest⟩ := hbefore
            simp only [hfile?, ih.mpr ⟨before, e, after, htail, hrest, he⟩]

theorem schemaFiles_eq_error_iff :
    schemaFiles d dir pattern = .error f ↔ ∃ stop, ListStops d dir pattern stop ∧ f = stop.failure := by
  unfold schemaFiles
  cases hlist : d.list dir with
  | error fault =>
      constructor
      · rintro ⟨⟩
        exact ⟨_, .list hlist, rfl⟩
      · rintro ⟨stop, hfails | ⟨hlisted, -, -⟩, rfl⟩
        · obtain rfl := Except.error.inj (hlist.symm.trans hfails)
          rfl
        · cases hlist.symm.trans hlisted
  | ok entries =>
      simp only [selectFiles_eq_error_iff, exists_schemaFile?_eq_ok_iff, schemaFile?_eq_error_iff]
      constructor
      · rintro ⟨before, e, after, rfl, hpassed, stop, hstop, hf⟩
        exact ⟨stop, .entry hlist hpassed hstop, hf⟩
      · rintro ⟨stop, hfails | ⟨hlisted, hpassed, hstop⟩, hf⟩
        · cases hlist.symm.trans hfails
        · obtain rfl := Except.ok.inj (hlist.symm.trans hlisted)
          exact ⟨_, _, _, rfl, hpassed, stop, hstop, hf⟩

/-- What one file does to a load that fails: the load stops at it, or goes on with its document and
fails later. -/
theorem addFiles_cons_eq_error_iff {schema : Schema} {files : List Bytes} :
    (addFiles d allowance schema (file :: files)).1 = .error f ↔
      (∃ stop, FileStops d allowance file stop ∧ f = stop.failure) ∨
        ∃ document next, HoldsDocument d file document ∧ allowance.check = .ok next ∧
          (addFiles d next (schema.addDocument document) files).1 = .error f := by
  rw [addFiles]
  constructor
  · intro h
    cases hdata : d.read file with
    | error fault =>
        simp only [hdata, Except.error.injEq] at h
        exact .inl ⟨_, .read hdata, h.symm⟩
    | ok data =>
        cases hcheck : allowance.check with
        | error why =>
            simp only [hdata, readDocument, hcheck, Except.error.injEq] at h
            exact .inl ⟨_, .interrupt hdata hcheck, h.symm⟩
        | ok next =>
            cases hdocument : Document.read file data with
            | error v =>
                simp only [hdata, readDocument, hcheck, hdocument, Except.error.injEq] at h
                exact .inl ⟨_, .document hdata hcheck hdocument, h.symm⟩
            | ok document =>
                simp only [hdata, readDocument, hcheck, hdocument] at h
                exact .inr ⟨document, next, ⟨data, hdata, Document.read_eq_ok_iff.mp hdocument⟩,
                  rfl, h⟩
  · rintro (⟨stop, hstop, rfl⟩ | ⟨document, next, ⟨data, hdata, hdescribes⟩, hcheck, h⟩)
    · cases hstop with
      | read hdata =>
          simp only [hdata]
          rfl
      | interrupt hdata hcheck =>
          simp only [hdata, readDocument, hcheck]
          rfl
      | document hdata hcheck hdocument =>
          simp only [hdata, readDocument, hcheck, hdocument]
          rfl
    · simp only [hdata, readDocument_eq_ok_iff.mpr ⟨hcheck, hdescribes⟩]
      exact h

theorem addFiles_eq_error_iff {schema : Schema} {files : List Bytes} :
    (addFiles d allowance schema files).1 = .error f ↔
      ∃ before file after documents left stop, files = before ++ file :: after ∧
        List.Forall₂ (HoldsDocument d) before documents ∧ allowance.Passes before.length left ∧
        FileStops d left file stop ∧ f = stop.failure := by
  induction files generalizing allowance schema with
  | nil => simp [addFiles]
  | cons file files ih =>
      rw [addFiles_cons_eq_error_iff]
      constructor
      · rintro (⟨stop, hstop, hf⟩ | ⟨document, next, hholds, hcheck, hrest⟩)
        · exact ⟨[], file, files, [], allowance, stop, rfl, .nil, .none, hstop, hf⟩
        · obtain ⟨before, bad, after, documents, left, stop, rfl, hbefore, hpasses, hstop⟩ := ih.mp hrest
          exact ⟨file :: before, bad, after, document :: documents, left, stop, rfl,
            .cons hholds hbefore, .check hcheck hpasses, hstop⟩
      · rintro ⟨before, bad, after, documents, left, stop, hfiles, hbefore, hpasses, hstop, hf⟩
        cases hbefore with
        | nil =>
            obtain ⟨rfl, -⟩ := List.cons.inj hfiles
            obtain rfl := Allowance.passes_zero_iff.mp hpasses
            exact .inl ⟨stop, hstop, hf⟩
        | cons hholds hbefore =>
            obtain ⟨rfl, rfl⟩ := List.cons.inj hfiles
            obtain ⟨next, hcheck, hpasses⟩ := Allowance.passes_succ_iff.mp hpasses
            exact .inr ⟨_, next, hholds, hcheck,
              ih.mpr ⟨_, bad, after, _, left, stop, rfl, hbefore, hpasses, hstop, hf⟩⟩

theorem load_eq_error_iff :
    (load d allowance dir pattern).1 = .error f ↔
      ∃ stop, LoadStops d allowance dir pattern stop ∧ f = stop.failure := by
  unfold load
  cases hfiles : schemaFiles d dir pattern with
  | error g =>
      obtain ⟨stop, hstop, rfl⟩ := schemaFiles_eq_error_iff.mp hfiles
      constructor
      · rintro ⟨⟩
        exact ⟨stop, .list hstop, rfl⟩
      · rintro ⟨other, hother | ⟨hlisted, -, -, -⟩, rfl⟩
        · have hsame := schemaFiles_eq_error_iff.mpr ⟨other, hother, rfl⟩
          rw [Except.error.inj (hfiles.symm.trans hsame)]
        · cases hfiles.symm.trans hlisted
  | ok files =>
      simp only [addFiles_eq_error_iff]
      constructor
      · rintro ⟨before, file, after, documents, left, stop, rfl, hheld, hpasses, hstop, hf⟩
        exact ⟨stop, .file hfiles hheld hpasses hstop, hf⟩
      · rintro ⟨stop, hother | ⟨hlisted, hheld, hpasses, hstop⟩, hf⟩
        · cases hfiles.symm.trans (schemaFiles_eq_error_iff.mpr ⟨stop, hother, rfl⟩)
        · obtain rfl := Except.ok.inj (hfiles.symm.trans hlisted)
          exact ⟨_, _, _, _, _, stop, rfl, hheld, hpasses, hstop, hf⟩

/-! ## Runs -/

variable {σ : Type} {sink : Option (Sink σ)} {state : σ} {settings : Settings} {schema : Schema}

theorem deliver?_eq_error_iff :
    (deliver? sink state allowance settings.withDefaults.setup settings.withDefaults.outputFile
        (some schema)).outcome = .error f ↔
      ∃ stop, DeliveryStops sink state allowance settings schema stop ∧ f = stop.cause := by
  constructor
  · intro h
    cases hsink : sink with
    | none =>
        rw [hsink] at h
        cases h
        exact ⟨_, .noSink rfl, rfl⟩
    | some given =>
        simp only [hsink, deliver?, deliver, Settings.orElse_withDefaults_outputFile] at h
        cases hcheck : allowance.check with
        | error why =>
            simp only [hcheck, Except.error.injEq] at h
            exact ⟨_, .interrupt rfl hcheck, h.symm⟩
        | ok next =>
            simp only [hcheck] at h
            split at h
            · rename_i cause hcause
              exact ⟨_, .write rfl hcheck hcause, (Except.error.inj h).symm⟩
            · cases h
  · rintro ⟨stop, hstop, rfl⟩
    cases hstop with
    | noSink hsink =>
        rw [hsink]
        rfl
    | interrupt hsink hcheck => simp only [hsink, deliver?, deliver, hcheck]
    | write hsink hcheck hcause =>
        simp only [hsink, deliver?, deliver, Settings.orElse_withDefaults_outputFile, hcheck, hcause]

theorem DeliveryStops.failure_eq {stop : Stop}
    (h : DeliveryStops sink state allowance settings schema stop) :
    stop.failure = Failure.classify Code.sink settings.withDefaults.outputFile stop.cause [] := by
  cases h <;> rfl

theorem outcome_runTo_of_faults (hfaults : settings.faults ≠ []) :
    (runTo d sink state allowance settings).outcome =
      .error (.coded Code.config [] (.settings settings.faults)) := by
  obtain ⟨fault, faults, hcons⟩ := List.exists_cons_of_ne_nil hfaults
  simp only [runTo, validate, hcons]

theorem outcome_runTo_of_valid (hvalid : settings.faults = []) :
    (runTo d sink state allowance settings).outcome =
      match load d allowance settings.schemaDir settings.pattern with
      | (.error f, _) => .error f
      | (.ok schema, left) =>
          match (deliver? sink state left settings.withDefaults.setup
            settings.withDefaults.outputFile (some schema)).outcome with
          | .error f => .error (Failure.classify Code.sink settings.withDefaults.outputFile f [])
          | .ok delivery => .ok (report schema delivery) := by
  have hload : load d allowance settings.withDefaults.schemaDir settings.withDefaults.pattern =
      load d allowance settings.schemaDir settings.pattern := rfl
  simp only [runTo, validate_eq_ok_iff.mpr hvalid, hload]
  rcases load d allowance settings.schemaDir settings.pattern with ⟨g | schema, left⟩
  · rfl
  · simp only
    cases (deliver? sink state left settings.withDefaults.setup settings.withDefaults.outputFile
      (some schema)).outcome with
    | error f => rfl
    | ok delivery => rfl

/-- A run fails exactly if it stops somewhere, and as it has to there. -/
theorem outcome_runTo_eq_error_iff :
    (runTo d sink state allowance settings).outcome = .error f ↔
      ∃ stop, Stops d sink state allowance settings stop ∧ f = stop.failure := by
  constructor
  · intro h
    by_cases hvalid : settings.faults = []
    · rw [outcome_runTo_of_valid hvalid] at h
      rcases hload : load d allowance settings.schemaDir settings.pattern with ⟨g | schema, left⟩
      · obtain ⟨stop, hstop, rfl⟩ := load_eq_error_iff.mp (congrArg Prod.fst hload)
        simp only [hload, Except.error.injEq] at h
        exact ⟨stop, .load hvalid hstop, h.symm⟩
      · simp only [hload] at h
        split at h
        · rename_i cause hcause
          obtain ⟨stop, hstop, rfl⟩ := deliver?_eq_error_iff.mp hcause
          cases h
          exact ⟨stop, .deliver hvalid hload hstop, hstop.failure_eq.symm⟩
        · cases h
    · rw [outcome_runTo_of_faults hvalid] at h
      exact ⟨_, .settings hvalid, (Except.error.inj h).symm⟩
  · rintro ⟨stop, hstop, rfl⟩
    cases hstop with
    | settings hfaults => exact outcome_runTo_of_faults hfaults
    | load hvalid hstop =>
        have hload := load_eq_error_iff.mpr ⟨stop, hstop, rfl⟩
        rw [outcome_runTo_of_valid hvalid]
        rcases hloaded : load d allowance settings.schemaDir settings.pattern with ⟨g | schema, left⟩
        · rw [hloaded] at hload
          obtain rfl := Except.error.inj hload
          rfl
        · rw [hloaded] at hload
          cases hload
    | deliver hvalid hload hstop =>
        rw [outcome_runTo_of_valid hvalid, hload]
        simp only [deliver?_eq_error_iff.mpr ⟨stop, hstop, rfl⟩, hstop.failure_eq]

end

/-! ## A small directory -/

/-- Settings that are valid as long as the pattern is accepted. -/
def settingsWith (pattern : Bytes) : Settings :=
  { Settings.empty with schemaDir := "s", pattern := pattern }

theorem validate_settingsWith {pattern : Bytes} (h : Settings.isGlob pattern = true) :
    validate (settingsWith pattern) = .ok () := by
  rw [validate_eq_ok_iff, Settings.faults_eq_nil_iff]
  intro field
  cases field with
  | pattern => exact if_pos (.inr h)
  | schemaDir | outputFile | servicesPath | clientPath | schemaPath | indentSize => rfl

/-- A directory `s` with one file. -/
def oneFile : Disk :=
  { tree := ⟨[(["s"], .folder), (["s", "a"], .file 0o644 "\x7b\x7d")]⟩, cwd := [] }

theorem list_oneFile : oneFile.list "s" = .ok [("a", .file 0o644 "\x7b\x7d")] :=
  congrArg Except.ok (List.mergeSort_singleton _)

end RpcBindings.Generation
