import Mathlib.Logic.Function.Basic
import RpcBindings.Proofs.File.Changes
import RpcBindings.Proofs.Path.Resolution
import RpcBindings.Sink.Folder

/-!
# Writing below a directory is atomic (SPEC §2, §4.4)

A call to write a file goes through several steps, and each of them can fail: directories are made, a
temporary file is created, written, closed and given its permissions, it is moved or linked to its place,
and it is taken away.  The device may fail in the middle of it, and the call may be cancelled, or its
deadline pass, between two steps.  However far a call gets, it either fails and leaves every regular file
as it was, or it ends well and changes the one file that its path leads to.  So the regular files after
any calls are those before them, with what the calls that ended well wrote.
-/

set_option autoImplicit false

namespace RpcBindings

open RpcBindings.File (Disk Location Node Target)
open RpcBindings.Path (IsName EndsIn)

/-! ## Regular files -/

namespace File.Disk

/-- The regular files of a disk: at each location the permissions and the content. -/
def files (d : Disk) (loc : Location) : Option (Nat × Bytes) :=
  match d.tree.node? loc with
  | some (.file mode content) => some (mode, content)
  | _ => none

theorem files_congr {d d' : Disk} {loc : Location} (h : d'.tree.node? loc = d.tree.node? loc) :
    d'.files loc = d.files loc := by
  rw [files, files, h]

theorem Grows.files_eq {d d' : Disk} (h : Grows d d') : d'.files = d.files := by
  funext loc
  rcases h.nodes loc with hsame | ⟨hnone, hnew⟩
  · exact files_congr hsame
  · rw [files, files, hnone, hnew]

theorem Writes.files_eq {d d' : Disk} {place : Location} {mode : Nat} {content : Bytes}
    (h : Writes d place (.file mode content) d') :
    d'.files = Function.update d.files place (some (mode, content)) := by
  funext loc
  by_cases hloc : loc = place
  · subst hloc
    rw [Function.update_self, files, h.written]
  · rw [Function.update_of_ne hloc]
    exact files_congr (h.same loc hloc)

theorem isAbsolute_cwdPath (d : Disk) : Path.isAbsolute d.cwdPath = true :=
  Path.isAbsolute_cons_separator _

theorem locate_root (d : Disk) (followLast : Bool) :
    d.locate followLast (pathOf []) = .ok (.present [] .folder) := rfl

end File.Disk

namespace Folder

open RpcBindings.File.Disk (Grows Writes Parks)

/-! ## Where a file goes -/

/-- The path that a file is asked for at, from the root. -/
def fullPath (f : Folder) (d : Disk) (path : Bytes) : Bytes :=
  Path.absolute d.cwdPath (Path.join f.root path)

/-- The disk once the directories are made that a path goes through. -/
def prepared (f : Folder) (d : Disk) (path : Bytes) : Disk :=
  (d.makeFolders (Path.names (Path.directory (f.fullPath d path))).reverse).1

/-- Where a path leads then. -/
def target (f : Folder) (d : Disk) (path : Bytes) : Except File.Reason Target :=
  (f.prepared d path).locate false (f.fullPath d path)

theorem resolve_eq_ok {f : Folder} {d : Disk} {path full : Bytes}
    (h : f.resolve d.cwdPath path = .ok full) : full = f.fullPath d path := by
  unfold resolve at h
  simp only at h
  split at h
  · exact (Except.ok.inj h).symm
  · cases h

theorem exists_names_fullPath (f : Folder) (d : Disk) (path : Bytes) :
    ∃ names, f.fullPath d path = File.pathOf names ∧ ∀ name ∈ names, IsName name :=
  Path.exists_names_absolute d.isAbsolute_cwdPath _

theorem prepared_grows (f : Folder) (d : Disk) (path : Bytes) : Grows d (f.prepared d path) := by
  refine d.makeFolders_grows ?_
  intro name hname
  obtain ⟨names, hfull, -⟩ := f.exists_names_fullPath d path
  have habsolute : Path.isAbsolute (Path.directory (f.fullPath d path)) = true := by
    rw [hfull]
    exact Path.isAbsolute_directory (Path.isAbsolute_cons_separator _)
  exact Path.isName_of_mem_names habsolute (List.mem_reverse.mp hname)

/-- A file can be brought to where a path leads: nothing is there, or what is there may be replaced
and is no directory. -/
def accepts (f : Folder) : Target → Bool
  | .absent _ _ => true
  | .present _ node => f.overwrite && !node.isFolder

theorem settle_eq_ok_iff {f : Folder} {d d₂ : Disk} {temp path full : Bytes} :
    f.settle d temp path full = .ok d₂ ↔
      f.overwrite = true ∧ d.rename temp full = .ok d₂ ∨
        f.overwrite = false ∧ d.link temp full = .ok d₂ := by
  unfold settle
  cases f.overwrite with
  | true => cases d.rename temp full <;> simp
  | false =>
      cases d.link temp full with
      | ok d₂ => simp
      | error fault =>
          by_cases hexists : fault.reason = .exists
          · simp [hexists]
          · simp [hexists]

section

variable {f : Folder} {d d' : Disk} {temp path : Bytes} {loc : Location} {names : List Bytes}
  {node : Node}

/-- The path of a file leads to the same with its temporary file and without it. -/
theorem locate_pathOf_iff (hnames : ∀ name ∈ names, IsName name)
    (hparks : Parks d temp loc (Path.base (File.pathOf names)) node d') {target : Target} :
    d'.locate false (File.pathOf names) = .ok target ↔
      d.locate false (File.pathOf names) = .ok target := by
  rcases List.eq_nil_or_concat' names with rfl | ⟨above, last, rfl⟩
  · rw [Disk.locate_root, Disk.locate_root]
  · have hends : EndsIn (File.pathOf (above ++ [last])) last := Path.pathOf_append_endsIn above last
    have hname : IsName last := hnames last (by simp)
    rw [hends.base_eq hname] at hparks
    exact hparks.locate_iff hends hname

theorem exists_settle_iff (path : Bytes) (hnames : ∀ name ∈ names, IsName name)
    (hparks : Parks d temp loc (Path.base (File.pathOf names)) node d') :
    (∃ d₂, f.settle d' temp path (File.pathOf names) = .ok d₂) ↔
      ∃ target, d.locate false (File.pathOf names) = .ok target ∧ f.accepts target = true := by
  simp only [settle_eq_ok_iff, hparks.rename_eq_ok_iff, hparks.link_eq_ok_iff,
    locate_pathOf_iff hnames hparks]
  constructor
  · rintro ⟨d₂, ⟨hoverwrite, target, hlocate, hfolder, -⟩ | ⟨-, parent, name, hlocate, -⟩⟩
    · refine ⟨target, hlocate, ?_⟩
      cases target with
      | absent parent name => rfl
      | present l found =>
          cases found with
          | folder => exact absurd rfl (hfolder l)
          | file mode content | link path | special => simp [accepts, hoverwrite, Node.isFolder]
    · exact ⟨_, hlocate, rfl⟩
  · rintro ⟨target, hlocate, haccepts⟩
    cases target with
    | absent parent name =>
        cases hoverwrite : f.overwrite with
        | true => exact ⟨_, .inl ⟨rfl, _, hlocate, by simp, rfl⟩⟩
        | false => exact ⟨_, .inr ⟨rfl, _, _, hlocate, rfl⟩⟩
    | present l found =>
        simp only [accepts, Bool.and_eq_true, Bool.not_eq_true'] at haccepts
        refine ⟨_, .inl ⟨haccepts.1, _, hlocate, ?_, rfl⟩⟩
        rintro l' ⟨⟩
        exact absurd haccepts.2 (by simp [Node.isFolder])

/-- A temporary file that is brought to its place is written there, where a name leads. -/
theorem settle_writes {d₂ : Disk} (hnames : ∀ name ∈ names, IsName name)
    (hparks : Parks d temp loc (Path.base (File.pathOf names)) node d')
    (h : f.settle d' temp path (File.pathOf names) = .ok d₂) :
    ∃ name target, EndsIn (File.pathOf names) name ∧ IsName name ∧
      d.locate false (File.pathOf names) = .ok target ∧ f.accepts target = true ∧
      Writes d target.loc node (d₂.discard temp) := by
  obtain ⟨target, hlocate, haccepts⟩ := (exists_settle_iff path hnames hparks).mp ⟨d₂, h⟩
  have hlocate' := (locate_pathOf_iff hnames hparks).mpr hlocate
  rcases List.eq_nil_or_concat' names with rfl | ⟨above, last, rfl⟩
  · -- The root is a directory, which nothing can replace.
    obtain rfl := Except.ok.inj (hlocate.symm.trans (d.locate_root false))
    simp [accepts, Node.isFolder] at haccepts
  · have hname : IsName last := hnames last (by simp)
    have hends : EndsIn (File.pathOf (above ++ [last])) last := Path.pathOf_append_endsIn above last
    rw [hends.base_eq hname] at hparks
    refine ⟨last, target, hends, hname, hlocate, haccepts, ?_⟩
    rcases settle_eq_ok_iff.mp h with ⟨-, hrename⟩ | ⟨-, hlink⟩
    · obtain ⟨target', htarget, -, rfl⟩ := hparks.rename_eq_ok_iff.mp hrename
      obtain rfl := Except.ok.inj (hlocate'.symm.trans htarget)
      exact hparks.writes_rename hends hname htarget
    · obtain ⟨parent, name, htarget, rfl⟩ := hparks.link_eq_ok_iff.mp hlink
      obtain rfl := Except.ok.inj (hlocate'.symm.trans htarget)
      exact hparks.writes_link hends hname htarget

end

/-! ## Temporary files -/

theorem device_eq_sound_iff {device : File.Device} :
    device = .sound ↔ device.write = none ∧ device.close = none ∧ device.chmod = none := by
  constructor
  · rintro rfl
    exact ⟨rfl, rfl, rfl⟩
  · rintro ⟨hwrite, hclose, hchmod⟩
    obtain ⟨_, _, _⟩ := device
    cases hwrite
    cases hclose
    cases hchmod
    rfl

section

variable (f : Folder) (d : Disk) (folder final content : Bytes)

/-- A temporary file is written in full and has its permissions, or nothing is left of it. -/
theorem writeTemp_cases :
    (∃ failure, (f.writeTemp d folder final content).2 = .error failure) ∧
        Grows d (f.writeTemp d folder final content).1 ∨
      ∃ temp loc, (f.writeTemp d folder final content).2 = .ok temp ∧
        Parks d temp loc final (.file f.permissions content)
          (f.writeTemp d folder final content).1 := by
  unfold writeTemp
  split
  · exact .inl ⟨⟨_, rfl⟩, .refl d⟩
  rename_i d₁ file hcreate
  obtain ⟨written, hparks, hall⟩ := (Disk.createTemp_parks hcreate).write content
  rcases hwrite : d₁.write file content with ⟨d₂, writing⟩
  rw [hwrite] at hparks hall
  simp only
  split
  · exact .inl ⟨⟨_, rfl⟩, hparks.grows_discard⟩
  · exact .inl ⟨⟨_, rfl⟩, hparks.grows_discard⟩
  · obtain rfl := hall rfl
    cases hdevice : d₂.device.chmod with
    | some reason =>
        have hchmod : d₂.chmod file.path f.permissions = .error ⟨.chmod, [file.path], reason⟩ := by
          rw [Disk.chmod, hdevice]
        simp only [hchmod]
        exact .inl ⟨⟨_, rfl⟩, hparks.grows_discard⟩
    | none =>
        simp only [hparks.chmod_eq hdevice]
        exact .inr ⟨_, _, rfl, hparks.put _ _⟩

/-- A temporary file can be written exactly if it can be created and the device has no fault. -/
theorem writeTemp_ok_iff :
    (∃ temp, (f.writeTemp d folder final content).2 = .ok temp) ↔
      (∃ made, d.createTemp folder final = .ok made) ∧ d.device = .sound := by
  rw [device_eq_sound_iff]
  unfold writeTemp
  split
  · rename_i hcreate
    simp [hcreate]
  rename_i d₁ file hcreate
  have hcreated := Disk.createTemp_parks hcreate
  have hsame : d₁.device = d.device := hcreated.writes.device
  obtain ⟨written, hparks, -⟩ := hcreated.write content
  have hdevice : (d₁.write file content).1.device = d.device := hparks.writes.device
  have hwriting : (d₁.write file content).2 = none ↔ d.device.write = none := by
    rw [← hsame, Disk.write]
    cases d₁.device.write <;> simp
  rcases hwrite : d₁.write file content with ⟨d₂, writing⟩
  rw [hwrite] at hparks hdevice hwriting
  have hclosing : d₂.close file = none ↔ d.device.close = none := by
    rw [← hdevice, Disk.close, Option.map_eq_none_iff]
  rw [← hwriting, ← hclosing, ← hdevice]
  simp only [hcreate, Except.ok.injEq, exists_eq', true_and]
  split
  · simp
  · rename_i hclose
    simp [hclose]
  · rename_i hclose
    cases hchmod : d₂.device.chmod with
    | some reason => simp [Disk.chmod, hchmod]
    | none => simp [hclose, hparks.chmod_eq hchmod]

end

/-! ## A call -/

theorem place_cases (f : Folder) (d : Disk) (allowance : Allowance) (path content : Bytes)
    {names : List Bytes} (hnames : ∀ name ∈ names, IsName name) :
    (∃ why, (f.place d allowance path (File.pathOf names) content).outcome = .error why) ∧
        Grows d (f.place d allowance path (File.pathOf names) content).state ∨
      (f.place d allowance path (File.pathOf names) content).outcome = .ok () ∧
        ∃ name target, EndsIn (File.pathOf names) name ∧ IsName name ∧
          d.locate false (File.pathOf names) = .ok target ∧ f.accepts target = true ∧
          Writes d target.loc (.file f.permissions content)
            (f.place d allowance path (File.pathOf names) content).state := by
  unfold place
  have htemp := f.writeTemp_cases d (Path.directory (File.pathOf names))
    (Path.base (File.pathOf names)) content
  split
  · rename_i d' failure hwrite
    rw [hwrite] at htemp
    obtain ⟨-, hgrows⟩ | ⟨_, _, hok, -⟩ := htemp
    · exact .inl ⟨⟨_, rfl⟩, hgrows⟩
    · cases hok
  · rename_i d' temp hwrite
    rw [hwrite] at htemp
    obtain ⟨⟨_, herror⟩, -⟩ | ⟨_, loc, ⟨⟩, hparks⟩ := htemp
    · cases herror
    split
    · exact .inl ⟨⟨_, rfl⟩, hparks.grows_discard⟩
    · split
      · exact .inl ⟨⟨_, rfl⟩, hparks.grows_discard⟩
      · rename_i d₂ hsettle
        exact .inr ⟨rfl, settle_writes hnames hparks hsettle⟩

theorem place_ok_iff (f : Folder) (d : Disk) (allowance : Allowance) (path content : Bytes)
    {names : List Bytes} (hnames : ∀ name ∈ names, IsName name) :
    (f.place d allowance path (File.pathOf names) content).outcome = .ok () ↔
      (∃ temp, (f.writeTemp d (Path.directory (File.pathOf names))
        (Path.base (File.pathOf names)) content).2 = .ok temp) ∧ (∃ rest, allowance.check = .ok rest) ∧
      ∃ target, d.locate false (File.pathOf names) = .ok target ∧ f.accepts target = true := by
  unfold place
  have htemp := f.writeTemp_cases d (Path.directory (File.pathOf names))
    (Path.base (File.pathOf names)) content
  split
  · rename_i hwrite
    simp [hwrite]
  · rename_i d' temp hwrite
    rw [hwrite] at htemp
    obtain ⟨⟨_, herror⟩, -⟩ | ⟨_, loc, ⟨⟩, hparks⟩ := htemp
    · cases herror
    rw [← exists_settle_iff path hnames hparks, hwrite]
    split
    · rename_i hcheck
      simp [hcheck]
    · rename_i hcheck
      split
      · rename_i hsettle
        simp [hsettle]
      · rename_i hsettle
        simp [hcheck, hsettle]

/-- What a call can do: fail and make directories at most, or write its content to where its path
leads once the directories are there. -/
theorem write_cases (f : Folder) (d : Disk) (allowance : Allowance) (path content : Bytes) :
    (∃ why, (f.write d allowance path content).outcome = .error why) ∧
        Grows d (f.write d allowance path content).state ∨
      (f.write d allowance path content).outcome = .ok () ∧
        ∃ name target, EndsIn (f.fullPath d path) name ∧ IsName name ∧
          f.target d path = .ok target ∧ f.accepts target = true ∧
          Writes (f.prepared d path) target.loc (.file f.permissions content)
            (f.write d allowance path content).state := by
  unfold write
  split
  · exact .inl ⟨⟨_, rfl⟩, .refl d⟩
  rename_i left _
  split
  · exact .inl ⟨⟨_, rfl⟩, .refl d⟩
  rename_i full hresolve
  obtain rfl := resolve_eq_ok hresolve
  have hgrows := f.prepared_grows d path
  split
  · rename_i made fault hmade
    rw [prepared, hmade] at hgrows
    exact .inl ⟨⟨_, rfl⟩, hgrows⟩
  · rename_i made hmade
    have hprepared : f.prepared d path = made := by rw [prepared, hmade]
    rw [target, hprepared]
    rw [hprepared] at hgrows
    obtain ⟨names, hfull, hnames⟩ := f.exists_names_fullPath d path
    rw [hfull]
    rcases f.place_cases made left path content hnames with ⟨hfailed, hplace⟩ | hwritten
    · exact .inl ⟨hfailed, hgrows.trans hplace⟩
    · exact .inr hwritten

/-- Nothing stands in the way of a temporary file: the path is in order and below the directory, the
directories are made, the file can be created there, the device has no fault, and the run may go on. -/
def Reaches (f : Folder) (d : Disk) (allowance : Allowance) (path : Bytes) : Prop :=
  (∃ left, Sink.enter allowance path = .ok left ∧ ∃ rest, left.check = .ok rest) ∧
    (∃ full, f.resolve d.cwdPath path = .ok full) ∧
    (d.makeFolders (Path.names (Path.directory (f.fullPath d path))).reverse).2 = none ∧
    (∃ made, (f.prepared d path).createTemp (Path.directory (f.fullPath d path))
      (Path.base (f.fullPath d path)) = .ok made) ∧ d.device = .sound

/-- A call ends well exactly if it gets a temporary file and can bring it to where its path leads. -/
theorem write_ok_iff (f : Folder) (d : Disk) (allowance : Allowance) (path content : Bytes) :
    (f.write d allowance path content).outcome = .ok () ↔
      f.Reaches d allowance path ∧
        ∃ target, f.target d path = .ok target ∧ f.accepts target = true := by
  obtain ⟨names, hfull, hnames⟩ := f.exists_names_fullPath d path
  unfold write Reaches
  split
  · rename_i henter
    simp [henter]
  rename_i left henter
  split
  · rename_i hresolve
    simp [hresolve]
  rename_i full hresolve
  obtain rfl := resolve_eq_ok hresolve
  split
  · rename_i hmade
    simp [hmade]
  · rename_i made hmade
    have hprepared : f.prepared d path = made := by rw [prepared, hmade]
    have hdevice : made.device = d.device := hprepared ▸ (f.prepared_grows d path).device
    rw [target, hprepared, hfull, f.place_ok_iff made left path content hnames,
      f.writeTemp_ok_iff, hdevice]
    rw [hfull] at hmade
    simp only [henter, hresolve, hmade, Except.ok.injEq, exists_eq_left', true_and,
      exists_eq', and_assoc]
    tauto

/-! ## Calls one after another -/

/-- What a call is asked for, how long it may go on, and how the device answers it. -/
structure Request where
  device : File.Device := .sound
  allowance : Allowance
  path : Bytes
  content : Bytes

/-- A call: the disk it found, what it was asked for, and what came of it. -/
structure Call where
  before : Disk
  request : Request
  result : Attempt Disk

/-- The disk that a call left. -/
def Call.after (c : Call) : Disk := c.result.state

/-- The call for a request, on the disk with the device as it is then. -/
def call (f : Folder) (d : Disk) (r : Request) : Call :=
  let d := { d with device := r.device }
  ⟨d, r, f.write d r.allowance r.path r.content⟩

/-- The calls for requests one after another. -/
def calls (f : Folder) : Disk → List Request → List Call
  | _, [] => []
  | d, r :: rs => f.call d r :: f.calls (f.call d r).after rs

/-- The disk after the calls for requests. -/
def finish (f : Folder) (d : Disk) (requests : List Request) : Disk :=
  requests.foldl (fun d r => (f.call d r).after) d

/-- The last name of the location is one that temporary files have. -/
def IsTemporary (loc : Location) : Prop :=
  ∃ middle : Bytes, loc.getLast? = some (".krpcgen-" ++ middle ++ ".tmp")

/-- The call did all of its work or none. -/
structure Atomic (f : Folder) (c : Call) : Prop where
  /-- A call that fails leaves every file as it was, and adds directories at most. -/
  failed : ∀ why, c.result.outcome = .error why →
    c.after.files = c.before.files ∧ Grows c.before c.after
  /-- A call that ends well changes one file, where its path leads; that was so before the call if the
  path led anywhere then.  Elsewhere there are new directories at most. -/
  succeeded : c.result.outcome = .ok () →
    ∃ target, f.target c.before c.request.path = .ok target ∧
      c.after.files = Function.update c.before.files target.loc
        (some (f.permissions, c.request.content)) ∧
      (∀ there, c.before.locate false (f.fullPath c.before c.request.path) = .ok there →
        there.loc = target.loc) ∧
      ∀ loc, loc ≠ target.loc → c.after.tree.node? loc = c.before.tree.node? loc ∨
        (c.before.tree.node? loc = none ∧ c.after.tree.node? loc = some .folder)
  /-- A call ends well exactly if it gets a temporary file and can bring it to its place. -/
  ends : c.result.outcome = .ok () ↔
    f.Reaches c.before c.request.allowance c.request.path ∧
      ∃ target, f.target c.before c.request.path = .ok target ∧ f.accepts target = true
  /-- No new file has the name of a temporary one, unless the file was asked for by that name. -/
  cleared : ∀ loc, IsTemporary loc → c.before.files loc = none → c.after.files loc ≠ none →
    c.result.outcome = .ok () ∧
      ∃ target, f.target c.before c.request.path = .ok target ∧ target.loc = loc
  /-- What is there already is kept if it may not be replaced, and the call fails. -/
  kept : f.overwrite = false → ∀ loc node,
    c.before.find false (f.fullPath c.before c.request.path) = .ok (loc, node) →
    (∃ why, c.result.outcome = .error why) ∧ c.after.files = c.before.files

/-- What the call wrote, put on the files. -/
def record (f : Folder) (files : Location → Option (Nat × Bytes)) (c : Call) :
    Location → Option (Nat × Bytes) :=
  match c.result.outcome, f.target c.before c.request.path with
  | .ok _, .ok target =>
      Function.update files target.loc (some (f.permissions, c.request.content))
  | _, _ => files

section

variable {f : Folder} {d : Disk} {r : Request}

/-- Where the path of a call led before it, it still leads once the directories are made. -/
theorem loc_eq_target {there target : Target}
    (hthere : d.locate false (f.fullPath d r.path) = .ok there)
    (htarget : f.target d r.path = .ok target) : there.loc = target.loc := by
  have hgrows := f.prepared_grows d r.path
  obtain ⟨target', htarget', hloc⟩ := Disk.locate_extends hthere hgrows.cwd hgrows.extends
  obtain rfl := Except.ok.inj (htarget.symm.trans htarget')
  exact hloc.symm

/-- What a path led to before a call is there when the directories are made. -/
theorem target_of_find {loc : Location} {node : Node} {name : Bytes} {target : Target}
    (hends : EndsIn (f.fullPath d r.path) name) (hname : IsName name)
    (hfind : d.find false (f.fullPath d r.path) = .ok (loc, node))
    (htarget : f.target d r.path = .ok target) : target = .present loc node := by
  have hlocate := Disk.find_eq_ok_iff.mp hfind
  have hloc := loc_eq_target hlocate htarget
  have hnode : (f.prepared d r.path).tree.node? target.loc = some node := by
    rw [← hloc]
    exact (f.prepared_grows d r.path).extends _ _ (Disk.locate_ends hlocate hends hname).1
  rw [Target.eq_present (Disk.locate_ends htarget hends hname).1 hnode, ← hloc]
  rfl

theorem write_atomic (f : Folder) (d : Disk) (r : Request) :
    f.Atomic ⟨d, r, f.write d r.allowance r.path r.content⟩ := by
  have hends := f.write_ok_iff d r.allowance r.path r.content
  rcases f.write_cases d r.allowance r.path r.content with
    ⟨⟨why, hfailed⟩, hgrows⟩ | ⟨hok, name, target, hpath, hname, htarget, haccepts, hwrites⟩
  · refine ⟨fun _ _ => ⟨hgrows.files_eq, hgrows⟩, ?_, hends, ?_,
      fun _ _ _ _ => ⟨⟨why, hfailed⟩, hgrows.files_eq⟩⟩
    · intro hok
      exact absurd (hfailed.symm.trans hok) (by simp)
    · intro loc _ hbefore hafter
      exact absurd ((congrFun hgrows.files_eq loc).trans hbefore) hafter
  · have hgrows := f.prepared_grows d r.path
    have hfiles : (f.write d r.allowance r.path r.content).state.files =
        Function.update d.files target.loc (some (f.permissions, r.content)) := by
      rw [← hgrows.files_eq]
      exact hwrites.files_eq
    refine ⟨?_, ?_, hends, ?_, ?_⟩
    · intro why hfailed
      exact absurd (hfailed.symm.trans hok) (by simp)
    · intro _
      refine ⟨target, htarget, hfiles, fun there hthere => loc_eq_target hthere htarget, ?_⟩
      intro loc hloc
      rw [Call.after, hwrites.same loc hloc]
      exact hgrows.nodes loc
    · intro loc _ hbefore hafter
      refine ⟨hok, target, htarget, ?_⟩
      by_contra hne
      rw [Call.after, hfiles, Function.update_of_ne (Ne.symm hne)] at hafter
      exact hafter hbefore
    · intro hoverwrite loc node hfind
      rw [target_of_find hpath hname hfind htarget, accepts, hoverwrite] at haccepts
      cases haccepts

theorem call_atomic (f : Folder) (d : Disk) (r : Request) : f.Atomic (f.call d r) :=
  f.write_atomic { d with device := r.device } r

end

/-- One call puts on the files what it records. -/
theorem files_after_call (f : Folder) (d : Disk) (r : Request) :
    (f.call d r).after.files = f.record d.files (f.call d r) := by
  have hatomic := f.call_atomic d r
  unfold record
  cases houtcome : (f.call d r).result.outcome with
  | error why => exact (hatomic.failed why houtcome).1
  | ok u =>
      obtain ⟨target, htarget, hfiles, -⟩ := hatomic.succeeded houtcome
      rw [htarget]
      exact hfiles

/-- The files after calls are those before them with what the calls wrote, the last one counting. -/
theorem files_finish (f : Folder) (d : Disk) (requests : List Request) :
    (f.finish d requests).files = (f.calls d requests).foldl f.record d.files := by
  induction requests generalizing d with
  | nil => rfl
  | cons r rs ih =>
      rw [finish, List.foldl_cons, calls, List.foldl_cons, ← files_after_call]
      exact ih _

theorem forall_calls (f : Folder) {P : Call → Prop} (h : ∀ d r, P (f.call d r)) (d : Disk)
    (requests : List Request) : ∀ c ∈ f.calls d requests, P c := by
  induction requests generalizing d with
  | nil => simp [calls]
  | cons r rs ih => exact List.forall_mem_cons.mpr ⟨h d r, ih _⟩

/-- For every directory, every disk and all requests, each call does all of its work or none, and the
files in the end are those of the beginning with what was written. -/
theorem writes_atomic (f : Folder) (d : Disk) (requests : List Request) :
    (∀ c ∈ f.calls d requests, f.Atomic c) ∧
      (f.finish d requests).files = (f.calls d requests).foldl f.record d.files :=
  ⟨f.forall_calls f.call_atomic d requests, f.files_finish d requests⟩

/-- A directory that a run is in, and nothing else. -/
def bareDisk : Disk := { tree := ⟨[(["w"], .folder)]⟩, cwd := ["w"] }

/-- The second of two calls finds the file of the first one, which may not be replaced, and fails. -/
theorem writes_atomic_twice :
    let f : Folder := ⟨"out", 0, false⟩
    let r : Request := { allowance := .unlimited, path := "a.rs", content := "x" }
    (f.call bareDisk r).result.outcome = .ok () ∧
      (f.call (f.call bareDisk r).after r).result.outcome = .error (.taken "a.rs") ∧
      f.call (f.call bareDisk r).after r ∈ f.calls bareDisk [r, r] ∧
      f.Atomic (f.call (f.call bareDisk r).after r) := by
  have hmem : ∀ (f : Folder) (r : Request),
      f.call (f.call bareDisk r).after r ∈ f.calls bareDisk [r, r] := by simp [calls]
  refine ⟨?_, ?_, hmem _ _, (writes_atomic _ bareDisk [_, _]).1 _ (hmem _ _)⟩
  · rfl
  · rfl

/-- A device that fills up in the middle of the content, and a deadline that passes once the content is
written: only the directory is left. -/
example :
    let f : Folder := .below "out"
    let full := f.call bareDisk
      { device := { write := some (1, .noSpace) }
        allowance := .unlimited, path := "a.rs", content := "xy" }
    let late := f.call bareDisk
      { allowance := .checks 1 .deadlineExceeded, path := "a.rs", content := "xy" }
    full.after.tree = ⟨[(["w"], .folder), (["w", "out"], .folder)]⟩ ∧
      late.result.outcome = .error (.interrupted .deadlineExceeded) ∧
      late.after.tree = full.after.tree := by
  exact ⟨rfl, rfl, rfl⟩

/-- Bits of the mode that are no permissions are not given to the file: the mode is not always the one
asked for. -/
theorem written_mode_ne_mode :
    let f : Folder := ⟨"out", 0o4755, true⟩
    let c := f.call bareDisk { allowance := .unlimited, path := "a.rs", content := "x" }
    c.result.outcome = .ok () ∧
      f.target c.before c.request.path = .ok (.absent ["w", "out"] "a.rs") ∧
      c.after.files ["w", "out", "a.rs"] ≠
        some (if f.mode = 0 then defaultMode else f.mode, c.request.content) := by
  exact ⟨rfl, rfl, by decide⟩

end Folder

end RpcBindings
