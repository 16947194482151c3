import RpcBindings.Generation.Job
import RpcBindings.Proofs.Generation.Delivery
import RpcBindings.Proofs.Sink.Atomicity

/-!
# Three ways to carry a job out (SPEC §4.4)

A job gives the same bindings and the same report in memory, to a stream and to a file, since what
happens before the sink does not depend on the sink, and each of the three sinks takes the content it
is given as it is.  In memory and to a stream that takes everything a job also fails alike.
-/

set_option autoImplicit false

namespace RpcBindings

open RpcBindings.File (Disk Location Node Target)
open RpcBindings.Path (IsName EndsIn)
open RpcBindings.Generation (Report Written)

/-! ## The last name of a path -/

namespace Path

theorem lastName_ne_nil {path : Bytes} (hpath : path ≠ [])
    (hlast : path.getLast? ≠ some separator) : lastName path ≠ [] := by
  rcases List.eq_nil_or_concat' path with rfl | ⟨lead, last, rfl⟩
  · exact absurd rfl hpath
  · have hne : (last != separator) = true := by
      rw [bne_iff_ne]
      rintro rfl
      exact hlast List.getLast?_concat
    rw [lastName, List.reverse_append, List.reverse_singleton, List.singleton_append,
      List.takeWhile_cons, if_pos hne]
    simp

theorem getLast?_dropTrailing_ne (b : UInt8) (bs : Bytes) :
    (Bytes.dropTrailing b bs).getLast? ≠ some b := by
  intro h
  rw [Bytes.dropTrailing, List.getLast?_reverse] at h
  have hkept := List.head?_dropWhile_not (fun c => decide (c = b)) bs.reverse
  rw [h] at hkept
  simp at hkept

theorem directory_ne_nil (path : Bytes) : directory path ≠ [] := by
  unfold directory clean
  dsimp only
  split
  · simp
  · split
    · decide
    · assumption

theorem base_ne_nil (path : Bytes) : base path ≠ [] := by
  unfold base
  split
  · decide
  · have hlast := getLast?_dropTrailing_ne separator path
    split
    · simp
    · rename_i stripped hstripped
      exact lastName_ne_nil hstripped hlast

end Path

/-! ## What is found where a file was written -/

namespace File.Disk

/-- A file that was written where a path leads is read under the path, unless a link stood there. -/
theorem read_of_writes {d d' : Disk} {path name : Bytes} {target : Target} {mode : Nat}
    {content : Bytes} (hlocate : d.locate false path = .ok target) (hpath : EndsIn path name)
    (hname : IsName name) (hwrites : Writes d target.loc (.file mode content) d')
    (hfolder : ∀ loc, target ≠ .present loc .folder)
    (hlink : ∀ loc path, target ≠ .present loc (.link path)) : d'.read path = .ok content := by
  obtain ⟨hholds, -⟩ := locate_ends hlocate hpath hname
  obtain ⟨hcallable, hwalks⟩ := locate_eq_ok_iff.mp hlocate
  obtain ⟨parts, hparts⟩ := hpath.split hname
  have hlocate' : d'.locate true path = .ok (.present target.loc (.file mode content)) := by
    refine locate_eq_ok_iff.mpr ⟨hcallable, ?_⟩
    rw [hwrites.cwd]
    refine hwalks.to_file hname hparts ?_ ?_ hwrites.written hwrites.same
    · intro hnode
      exact hfolder _ (target.eq_present hholds hnode)
    · intro path hnode
      exact hlink _ path (target.eq_present hholds hnode)
  rw [read, find_eq_ok_iff.mpr hlocate']

end File.Disk

namespace Folder

theorem permissions_below (root : Bytes) : (below root).permissions = defaultMode := by
  simp [permissions, below, defaultMode, settableBits]

/-- A call that ends well leaves the content at the location its path leads to, and under the path if
no link stood there. -/
theorem write_leaves {f : Folder} {d : Disk} {allowance : Allowance} {path content : Bytes}
    (h : (f.write d allowance path content).outcome = .ok ()) :
    ∃ target, f.target d path = .ok target ∧
      (f.write d allowance path content).state.files target.loc = some (f.permissions, content) ∧
      ((∀ loc path, target ≠ .present loc (.link path)) →
        (f.write d allowance path content).state.read (f.fullPath d path) = .ok content) := by
  rcases f.write_cases d allowance path content with
    ⟨⟨why, hfailed⟩, -⟩ | ⟨-, name, target, hpath, hname, htarget, haccepts, hwrites⟩
  · exact absurd (hfailed.symm.trans h) (by simp)
  · refine ⟨target, htarget, ?_, ?_⟩
    · rw [hwrites.files_eq, Function.update_self]
    · refine File.Disk.read_of_writes htarget hpath hname hwrites ?_
      rintro loc rfl
      simp [accepts, Node.isFolder] at haccepts

end Folder

/-! ## Sinks that take what they are given -/

theorem Sink.enter_unlimited {path : Bytes} (h : Path.outputFault? path = none) :
    Sink.enter .unlimited path = .ok .unlimited := by
  simp [Sink.enter, h, Allowance.check]

theorem Memory.get?_put_empty (path content : Bytes) :
    (Memory.empty.put path content).get? path = some content := by
  simp [put, get?, empty]

/-- The stream takes at least one more content. -/
def Stream.Accepts (s : Stream) : Prop := s.capacity ≠ some 0

theorem Stream.exists_append {s : Stream} (h : s.Accepts) (content : Bytes) :
    ∃ s', s.append content = .ok s' ∧ s'.written = s.written ++ content := by
  unfold append
  split
  · rename_i hcapacity
    exact absurd hcapacity h
  · exact ⟨_, rfl, rfl⟩

namespace Generation

/-- The bindings that a run with these settings makes of a schema. -/
def bindings (settings : Settings) (schema : Schema) : Bytes :=
  Binding.text settings.withDefaults.setup schema

/-- What a run with these settings reports when its sink has taken the bindings. -/
def reported (settings : Settings) (schema : Schema) : Report :=
  report schema ⟨[⟨settings.withDefaults.outputFile, (bindings settings schema).length⟩],
    Binding.tally schema⟩

section

variable {d : Disk} {allowance left : Allowance} {settings : Settings} {schema : Schema}

theorem outputFault?_of_prepare (h : prepare d allowance settings = (.ok schema, left)) :
    Path.outputFault? settings.withDefaults.outputFile = none := by
  obtain ⟨documents, hready, -⟩ := prepare_eq_ok_iff.mp h
  exact Settings.outputFault?_of_faults hready.valid

theorem load_of_prepare (h : prepare d allowance settings = (.ok schema, left)) :
    ∃ next, load d allowance settings.schemaDir settings.pattern = (.ok schema, next) := by
  obtain ⟨documents, ⟨-, ⟨files, hfiles, hholds⟩, hpasses⟩, rfl⟩ := prepare_eq_ok_iff.mp h
  obtain ⟨next, hnext, -⟩ := Allowance.passes_succ_iff_last.mp hpasses
  rw [← hholds.length_eq] at hnext
  exact ⟨next, load_eq_ok_iff.mpr ⟨files, documents, hfiles, hholds, hnext, rfl⟩⟩

theorem left_of_prepare_unlimited (h : prepare d .unlimited settings = (.ok schema, left)) :
    left = .unlimited := by
  obtain ⟨documents, hready, -⟩ := prepare_eq_ok_iff.mp h
  exact Allowance.passes_unlimited_iff.mp hready.passes

theorem runTo_memory_of_prepare (h : prepare d .unlimited settings = (.ok schema, left)) :
    runTo d (some Memory.sink) Memory.empty .unlimited settings =
      ⟨.ok (reported settings schema), .unlimited,
        Memory.empty.put settings.withDefaults.outputFile (bindings settings schema)⟩ := by
  obtain rfl := left_of_prepare_unlimited h
  rw [runTo_eq, h]
  simp only [Memory.sink, Sink.enter_unlimited (outputFault?_of_prepare h)]
  rfl

theorem runTo_stream_of_prepare {s : Stream} (hs : s.Accepts)
    (h : prepare d .unlimited settings = (.ok schema, left)) :
    ∃ s', runTo d (some Stream.sink) s .unlimited settings =
        ⟨.ok (reported settings schema), .unlimited, s'⟩ ∧
      s'.written = s.written ++ bindings settings schema := by
  obtain rfl := left_of_prepare_unlimited h
  obtain ⟨s', happend, hwritten⟩ := Stream.exists_append hs (bindings settings schema)
  refine ⟨s', ?_, hwritten⟩
  rw [bindings] at happend
  rw [runTo_eq, h]
  simp only [Stream.sink, Sink.enter_unlimited (outputFault?_of_prepare h), happend]
  rfl

/-- A run that ends well has delivered the bindings of its schema. -/
theorem runTo_eq_ok {σ : Type} {sink : Sink σ} {state : σ} {made : Report}
    (h : (runTo d (some sink) state allowance settings).outcome = .ok made) :
    ∃ schema left, prepare d allowance settings = (.ok schema, left) ∧
      made = reported settings schema ∧
      (sink.write state left settings.withDefaults.outputFile (bindings settings schema)).outcome =
        .ok () ∧
      (runTo d (some sink) state allowance settings).state =
        (sink.write state left settings.withDefaults.outputFile (bindings settings schema)).state := by
  rw [runTo_eq] at h ⊢
  rcases hprepare : prepare d allowance settings with ⟨f | schema, left⟩
  · simp [hprepare] at h
  · simp only [hprepare] at h
    have hwrite := exists_verdict_eq_ok_iff.mp ⟨made, h⟩
    rw [hwrite] at h
    exact ⟨schema, left, rfl, (Except.ok.inj h).symm, hwrite, rfl⟩

end

end Generation

namespace Job

open RpcBindings.Generation (prepare bindings reported)

/-! ## In memory and to a stream -/

section

variable {j : Job} (hrejected : j.rejected = none) (hallowance : j.allowance = .unlimited) {d : Disk}
include hrejected hallowance

theorem inMemory_of_prepare {schema : Schema} {left : Allowance}
    (h : prepare d .unlimited j.settings = (.ok schema, left)) :
    (j.inMemory d).1 =
      .ok { reported j.settings schema with content := bindings j.settings schema } := by
  simp only [inMemory, hrejected, hallowance, Generation.runTo_memory_of_prepare h, withContent,
    reported, Generation.report, List.flatMap_cons, List.flatMap_nil, Memory.get?_put_empty,
    Option.getD_some, List.append_nil]

theorem toStream_of_prepare {s : Stream} (hs : s.Accepts) {schema : Schema} {left : Allowance}
    (h : prepare d .unlimited j.settings = (.ok schema, left)) :
    (j.toStream d s).outcome = .ok (reported j.settings schema) ∧
      (j.toStream d s).state.written = s.written ++ bindings j.settings schema := by
  obtain ⟨s', hrun, hwritten⟩ := Generation.runTo_stream_of_prepare hs h
  simp only [toStream, hrejected, hallowance, hrun, done]
  exact ⟨trivial, hwritten⟩

theorem fails_of_prepare {s : Stream} {f : Failure} {left : Allowance}
    (h : prepare d .unlimited j.settings = (.error f, left)) :
    (j.inMemory d).1 = .error f ∧ (j.toStream d s).outcome = .error f := by
  simp only [inMemory, toStream, hrejected, hallowance, Generation.runTo_eq, h, withContent, done,
    and_self]

end

/-! ## To a file -/

theorem outputFile_fileSettings (j : Job) (path : Bytes) :
    (j.fileSettings path).withDefaults.outputFile = Path.base path := by
  simp [fileSettings, Settings.withDefaults, Settings.orElse, Path.base_ne_nil]

theorem toFile_eq {j : Job} (hrejected : j.rejected = none) (d : Disk) (path : Bytes) :
    j.toFile d path = j.done (Generation.runTo d (some (Folder.below (Path.directory path)).sink) d
      j.allowance (j.fileSettings path)) := by
  have hdir : (j.fileSettings path).outDir ≠ [] := Path.directory_ne_nil path
  simp only [toFile, hrejected, Generation.run]
  rw [if_neg hdir]
  rfl

/-- A job that was carried out to a file has delivered, to the sink below the directory of the path, the
bindings that it makes in memory and to a stream. -/
theorem toFile_eq_ok {j : Job} (hrejected : j.rejected = none) {d : Disk} {path : Bytes}
    {made : Report} (h : (j.toFile d path).outcome = .ok made) :
    ∃ schema left next, Generation.load d j.allowance j.settings.schemaDir j.settings.pattern =
        (.ok schema, next) ∧
      made = reported (j.fileSettings path) schema ∧
      let write := (Folder.below (Path.directory path)).write d left (Path.base path)
        (bindings j.settings schema)
      write.outcome = .ok () ∧ (j.toFile d path).state = write.state := by
  rw [toFile_eq hrejected] at h ⊢
  obtain ⟨schema, left, hprepare, hmade, hwrite, hstate⟩ := Generation.runTo_eq_ok h
  obtain ⟨next, hload⟩ := Generation.load_of_prepare hprepare
  rw [outputFile_fileSettings] at hwrite hstate
  exact ⟨schema, left, next, hload, hmade, hwrite, hstate⟩

/-- Without a limit, a job ends in memory as it does with a stream that accepts contents: with the same
failure, or with a report that differs in nothing but the content, which is what the stream was given.
If it also ends well with a file, the report is the same but for the name of the file, and the file
holds this content: at the location where its path leads, and under the path itself unless a link was
replaced there. -/
theorem terminals_agree {j : Job} (hrejected : j.rejected = none)
    (hallowance : j.allowance = .unlimited) (d : Disk) {s : Stream} (hs : s.Accepts) :
    (j.toStream d s).outcome =
      (j.inMemory d).1.map (fun report => { report with content := [] }) ∧
    ∀ report, (j.inMemory d).1 = .ok report →
      (j.toStream d s).state.written = s.written ++ report.content ∧
      ∀ path made, (j.toFile d path).outcome = .ok made →
        made.documents = report.documents ∧ made.tally = report.tally ∧
        made.external = report.external ∧
        made.files.map Written.size = report.files.map Written.size ∧
        ∃ target, (Folder.below (Path.directory path)).target d (Path.base path) = .ok target ∧
          (j.toFile d path).state.files target.loc = some (Folder.defaultMode, report.content) ∧
          ((∀ loc link, target ≠ .present loc (.link link)) →
            (j.toFile d path).state.read (Path.absolute d.cwdPath
              (Path.join (Path.directory path) (Path.base path))) = .ok report.content) := by
  rcases hprepare : prepare d .unlimited j.settings with ⟨f | schema, left⟩
  · obtain ⟨hmemory, hstream⟩ := fails_of_prepare hrejected hallowance (s := s) hprepare
    rw [hmemory, hstream]
    refine ⟨rfl, ?_⟩
    rintro report ⟨⟩
  · have hmemory := inMemory_of_prepare hrejected hallowance hprepare
    obtain ⟨hstream, hwritten⟩ := toStream_of_prepare hrejected hallowance hs hprepare
    rw [hmemory, hstream]
    refine ⟨rfl, ?_⟩
    rintro report ⟨⟩
    refine ⟨hwritten, ?_⟩
    intro path made hmade
    obtain ⟨found, left, next, hload, rfl, hwrite, hstate⟩ := toFile_eq_ok hrejected hmade
    obtain ⟨other, hother⟩ := Generation.load_of_prepare hprepare
    -- Both runs read the same files of the same disk, so they have the same schema.
    rw [hallowance] at hload
    obtain ⟨rfl, -⟩ : found = schema ∧ next = other := by
      simpa using hload.symm.trans hother
    obtain ⟨target, htarget, hfiles, hread⟩ := Folder.write_leaves hwrite
    refine ⟨rfl, rfl, rfl, rfl, target, htarget, ?_, ?_⟩
    · rw [hstate, hfiles, Folder.permissions_below]
    · rw [hstate]
      exact hread

/-- A run in `/w`, with a directory `s` that holds one document, which describes no service. -/
def oneDocument : Disk :=
  { tree := ⟨[(["w"], .folder), (["w", "s"], .folder),
      (["w", "s", "a.json"], .file 0o644 "\x7b\x7d")]⟩
    cwd := ["w"] }

theorem schemaFiles_oneDocument :
    Generation.schemaFiles oneDocument "s" [] = .ok ["s/a.json"] := by
  have hlist : oneDocument.list "s" = .ok [("a.json", .file 0o644 "\x7b\x7d")] :=
    congrArg Except.ok (List.mergeSort_singleton _)
  rw [Generation.schemaFiles, hlist]
  rfl

theorem exists_prepare_oneDocument {settings : Settings} (hvalid : settings.faults = [])
    (hdir : settings.schemaDir = Bytes.ofString "s") (hpattern : settings.pattern = []) :
    ∃ schema, prepare oneDocument .unlimited settings = (.ok schema, .unlimited) := by
  have hconform : ∀ file ∈ [Bytes.ofString "s/a.json"],
      ∃ data, oneDocument.read file = .ok data ∧ Document.Conforms data :=
    List.forall_mem_singleton.mpr ⟨_, rfl, Generation.conforms_empty_object⟩
  obtain ⟨documents, hholds⟩ := Generation.exists_forall₂_holdsDocument_iff.mpr hconform
  refine ⟨_, Generation.prepare_eq_ok_iff.mpr ⟨documents, ⟨hvalid, ⟨_, ?_, hholds⟩, ?_⟩, rfl⟩⟩
  · rw [hdir, hpattern]
    exact schemaFiles_oneDocument
  · exact Allowance.passes_unlimited_iff.mpr rfl

/-- The output file of the settings lies in a directory; the file that is asked for lies in another one,
which is made. -/
theorem terminals_agree_on_oneDocument :
    let j := (fromDir "s").addOptions "output_file=gen/services.rs"
    ∃ report made, (j.inMemory oneDocument).1 = .ok report ∧
      (j.toStream oneDocument .accepting).outcome = .ok { report with content := [] } ∧
      (j.toStream oneDocument .accepting).state.written = report.content ∧
      (j.toFile oneDocument "out/x.rs").outcome = .ok made ∧
      made.tally = report.tally ∧
      (j.toFile oneDocument "out/x.rs").state.read "/w/out/x.rs" = .ok report.content := by
  have hjob : (fromDir "s").addOptions "output_file=gen/services.rs" =
      ⟨{ Settings.empty with schemaDir := "s", outputFile := "gen/services.rs" }, .unlimited, none⟩ := by
    decide +kernel
  rw [hjob]
  intro j
  have hstream : Stream.accepting.Accepts := by simp [Stream.Accepts, Stream.accepting]
  obtain ⟨houtcome, hagree⟩ := terminals_agree (j := j) rfl rfl oneDocument hstream
  obtain ⟨schema, hprepare⟩ : ∃ schema, prepare oneDocument .unlimited j.settings = (.ok schema, _) :=
    exists_prepare_oneDocument (by decide) rfl rfl
  obtain ⟨schema', hprepare'⟩ : ∃ schema,
      prepare oneDocument .unlimited (j.fileSettings "out/x.rs") = (.ok schema, _) :=
    exists_prepare_oneDocument (by decide) rfl rfl
  have hmemory := inMemory_of_prepare (j := j) rfl rfl hprepare
  have hfile : ∃ made, (j.toFile oneDocument "out/x.rs").outcome = .ok made := by
    have hwrite : ∀ content, ((Folder.below (Path.directory "out/x.rs")).sink.write oneDocument
        .unlimited (Path.base "out/x.rs") content).outcome = .ok () := fun _ => rfl
    rw [toFile_eq rfl, done, Generation.runTo_eq, hprepare', outputFile_fileSettings]
    simp only [hwrite]
    exact ⟨_, rfl⟩
  obtain ⟨made, hmade⟩ := hfile
  obtain ⟨hwritten, hfiles⟩ := hagree _ hmemory
  obtain ⟨-, htally, -, -, target, htarget, -, hread⟩ := hfiles _ made hmade
  rw [hmemory] at houtcome
  refine ⟨_, made, hmemory, houtcome, hwritten, hmade, htally, hread ?_⟩
  have habsent : (Folder.below "out").target oneDocument "x.rs" = .ok (.absent ["w", "out"] "x.rs") := rfl
  obtain rfl := Except.ok.inj (htarget.symm.trans habsent)
  simp

end Job

end RpcBindings
