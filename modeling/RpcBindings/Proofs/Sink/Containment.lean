import Mathlib.Logic.Basic
import RpcBindings.Proofs.Path.Resolution
import RpcBindings.Proofs.Text.Bytes
import RpcBindings.Sink.Folder

/-!
# Files stay below their directory (SPEC §2)

An output path is joined to the directory of a sink and made absolute, and so is the directory itself;
the file is refused unless its path is that of the directory or starts with it and a slash.  The path of
the file always has the names of the directory in front.  Still it is not always taken: the path of the
root ends in a slash already, and no path of a file starts with two of them.  So below the root every
file is refused, and below any other directory none.
-/

set_option autoImplicit false

namespace RpcBindings

namespace Path

variable {above below : List Bytes} {path : Bytes}

theorem pathOf_injective (habove : ∀ name ∈ above, IsName name)
    (hbelow : ∀ name ∈ below, IsName name) (h : File.pathOf above = File.pathOf below) :
    above = below := by
  rw [← names_pathOf habove, h, names_pathOf hbelow]

/-- Names with slashes between them do not start with a slash. -/
theorem isAbsolute_join_names (h : ∀ name ∈ below, IsName name) :
    isAbsolute (Bytes.join [separator] below) = false := by
  by_cases hbelow : below = []
  · subst hbelow
    rfl
  · refine OnlyNames.isAbsolute_eq ?_
    rw [OnlyNames, Bytes.split_join hbelow fun name hname => (h name hname).no_separator]
    exact h

/-- The path of names starts with the path of the first of them and a slash, unless these are none. -/
theorem pathOf_append_starts_iff (hbelow : ∀ name ∈ below, IsName name) (hne : below ≠ []) :
    (Bytes.after? (File.pathOf above ++ [separator]) (File.pathOf (above ++ below))).isSome = true ↔
      above ≠ [] := by
  rw [Option.isSome_iff_exists]
  simp only [Bytes.after?_eq_some_iff]
  constructor
  · rintro ⟨rest, hrest⟩ rfl
    have hslash : Bytes.join [separator] below = separator :: rest := (List.cons.inj hrest).2
    have hrelative := isAbsolute_join_names hbelow
    rw [hslash, isAbsolute_cons_separator] at hrelative
    cases hrelative
  · intro habove
    refine ⟨Bytes.join [separator] below, ?_⟩
    rw [File.pathOf, Bytes.join_append _ habove hne]
    rfl

/-- An output path behind the path of names stands for these names and its own. -/
theorem clean_pathOf_append (habove : ∀ name ∈ above, IsName name) (h : outputFault? path = none) :
    clean (File.pathOf above ++ [separator] ++ path) = File.pathOf (above ++ components path) := by
  have hroot : isAbsolute (File.pathOf above ++ [separator] ++ path) = true :=
    isAbsolute_cons_separator _
  have hjoin : join (File.pathOf above) path = clean (File.pathOf above ++ [separator] ++ path) :=
    if_neg (List.cons_ne_nil _ _)
  rw [clean_of_isAbsolute hroot, ← seenFrom_of_isAbsolute hroot [], ← seenFrom_clean, ← hjoin,
    seenFrom_join h, seenFrom_of_isAbsolute (isAbsolute_pathOf above), names_pathOf habove]

end Path

namespace Folder

open RpcBindings.File (Disk)

variable {f : Folder} {cwd path : Bytes}

/-- The directory of a sink and a file below it, as names from the root. -/
theorem exists_names_below (f : Folder) (hcwd : Path.isAbsolute cwd = true)
    (hpath : Path.outputFault? path = none) :
    ∃ ns, (∀ name ∈ ns ++ Path.components path, Path.IsName name) ∧
      Path.absolute cwd f.root = File.pathOf ns ∧
      Path.absolute cwd (Path.join f.root path) = File.pathOf (ns ++ Path.components path) := by
  have hroot : ∀ name ∈ Path.seenFrom (Path.names cwd) f.root, Path.IsName name :=
    Path.isName_of_mem_seenFrom fun _ => Path.isName_of_mem_names hcwd
  refine ⟨Path.seenFrom (Path.names cwd) f.root, ?_, Path.absolute_eq_pathOf hcwd _, ?_⟩
  · intro name hname
    exact (List.mem_append.mp hname).elim (hroot name) (Path.isName_of_mem_components hpath name)
  · rw [Path.absolute_eq_pathOf hcwd, Path.seenFrom_join hpath]

/-- What comes of an output path: it is refused below the root, except for the root itself. -/
theorem resolve_eq (f : Folder) (hcwd : Path.isAbsolute cwd = true)
    (hpath : Path.outputFault? path = none) :
    f.resolve cwd path =
      if Path.absolute cwd f.root = [Path.separator] ∧ path ≠ Path.here then .error (.outside path)
      else .ok (Path.absolute cwd (Path.join f.root path)) := by
  obtain ⟨ns, hall, hroot, hfull⟩ := f.exists_names_below hcwd hpath
  have hns : ∀ name ∈ ns, Path.IsName name := fun name h => hall name (List.mem_append_left _ h)
  have hbare : File.pathOf ns = [Path.separator] ↔ ns = [] :=
    ⟨fun h => Path.pathOf_injective hns (by simp) (h.trans rfl), fun h => by rw [h]; rfl⟩
  simp only [resolve, hroot, hfull, hbare]
  by_cases hhere : path = Path.here
  · rw [Path.components_eq_nil_iff.mpr hhere, List.append_nil, if_pos (.inl rfl),
      if_neg fun h => h.2 hhere]
  · have hne : Path.components path ≠ [] := fun h => hhere (Path.components_eq_nil_iff.mp h)
    have hdiffer : File.pathOf (ns ++ Path.components path) ≠ File.pathOf ns := by
      intro h
      exact hne (List.append_right_eq_self.mp (Path.pathOf_injective hall hns h))
    simp only [Path.pathOf_append_starts_iff (Path.isName_of_mem_components hpath) hne, hdiffer, false_or]
    by_cases hempty : ns = []
    · rw [if_neg fun h => h hempty, if_pos ⟨hempty, hhere⟩]
    · rw [if_pos hempty, if_neg fun h => hempty h.1]

/-! ## How a call fails -/

/-- A file that cannot be brought to its place is there already, or a call on the disk failed. -/
theorem settle_error_cases {d : Disk} {temp full : Bytes} {failure : Failure}
    (h : f.settle d temp path full = .error failure) :
    failure = .taken path ∨ ∃ note fault, failure = .noted note (.file fault) := by
  unfold settle at h
  split at h
  · split at h
    · cases h
    · cases h
      exact .inr ⟨_, _, rfl⟩
  · split at h
    · cases h
    · split at h
      · cases h
        exact .inl rfl
      · cases h
        exact .inr ⟨_, _, rfl⟩

/-- A temporary file that cannot be written is one on which a call on the disk failed. -/
theorem writeTemp_error_cases {d d' : Disk} {folder final content : Bytes} {failure : Failure}
    (h : f.writeTemp d folder final content = (d', .error failure)) :
    ∃ note fault, failure = .noted note (.file fault) := by
  unfold writeTemp at h
  split at h
  · cases h
    exact ⟨_, _, rfl⟩
  · simp only at h
    split at h
    · cases h
      exact ⟨_, _, rfl⟩
    · cases h
      exact ⟨_, _, rfl⟩
    · split at h
      · cases h
        exact ⟨_, _, rfl⟩
      · cases h

theorem place_error_cases {d : Disk} {allowance : Allowance} {full content : Bytes}
    {failure : Failure} (h : (f.place d allowance path full content).outcome = .error failure) :
    (∃ why, failure = .interrupted why) ∨ failure = .taken path ∨
      ∃ note fault, failure = .noted note (.file fault) := by
  unfold place at h
  split at h
  · rename_i hwrite
    cases h
    exact .inr (.inr (writeTemp_error_cases hwrite))
  · split at h
    · cases h
      exact .inl ⟨_, rfl⟩
    · split at h
      · rename_i hsettle
        cases h
        exact .inr (settle_error_cases hsettle)
      · cases h

/-- A call reports a path outside exactly if its path is an output path that is refused so, and the run
may go on. -/
theorem write_outside_iff (f : Folder) (d : Disk) (allowance : Allowance) (path content q : Bytes) :
    (f.write d allowance path content).outcome = .error (.outside q) ↔
      Path.outputFault? path = none ∧ (∃ left, allowance.check = .ok left) ∧
        f.resolve d.cwdPath path = .error (.outside q) := by
  unfold write Sink.enter
  cases Path.outputFault? path with
  | some fault => simp
  | none =>
      cases allowance.check with
      | error why => simp
      | ok left =>
          simp only
          cases hresolve : f.resolve d.cwdPath path with
          | error failure => simp
          | ok full =>
              simp only
              split
              · simp
              · simp only [reduceCtorEq, and_false, iff_false]
                intro houtside
                rcases place_error_cases houtside with ⟨_, h⟩ | h | ⟨_, _, h⟩ <;> cases h

/-- Seen from any absolute directory, and for any directory of the sink: an output path stands for the
names of the directory and its own, and it is taken unless the directory is the root and the path leads
below it.  A call reports a path outside in this one case. -/
theorem output_path_taken_iff (f : Folder) {cwd : Bytes} (hcwd : Path.isAbsolute cwd = true) :
    (∀ path, Path.outputFault? path = none →
      let root := Path.absolute cwd f.root
      let full := Path.clean (root ++ [Path.separator] ++ path)
      Path.isAbsolute full = true ∧ Path.clean full = full ∧
        Path.names full = Path.names root ++ Path.components path ∧
        (f.resolve cwd path = .ok full ↔ root ≠ [Path.separator] ∨ path = Path.here) ∧
        (f.resolve cwd path = .error (.outside path) ↔
          root = [Path.separator] ∧ path ≠ Path.here)) ∧
      ∀ (d : Disk) (allowance : Allowance) (path content q : Bytes), d.cwdPath = cwd →
        ((f.write d allowance path content).outcome = .error (.outside q) ↔
          q = path ∧ Path.outputFault? path = none ∧ (∃ left, allowance.check = .ok left) ∧
            Path.absolute cwd f.root = [Path.separator] ∧ path ≠ Path.here) := by
  constructor
  · intro path hpath root full
    obtain ⟨ns, hall, hroot, hjoined⟩ := f.exists_names_below hcwd hpath
    have hns : ∀ name ∈ ns, Path.IsName name := fun name h => hall name (List.mem_append_left _ h)
    have hfull : full = File.pathOf (ns ++ Path.components path) := by
      simp only [full, root, hroot, Path.clean_pathOf_append hns hpath]
    have hresolve := f.resolve_eq hcwd hpath
    rw [hjoined, ← hfull] at hresolve
    refine ⟨?_, ?_, ?_, ?_, ?_⟩
    · rw [hfull, Path.isAbsolute_pathOf]
    · rw [hfull, Path.clean_pathOf hall]
    · rw [hfull, Path.names_pathOf hall, show root = File.pathOf ns from hroot, Path.names_pathOf hns]
    · rw [hresolve, Ne.ite_eq_right_iff (by simp), Decidable.not_and_iff_not_or_not,
        Decidable.not_not]
    · rw [hresolve, Ne.ite_eq_left_iff (by simp)]
  · rintro d allowance path content q rfl
    rw [write_outside_iff]
    constructor
    · rintro ⟨hpath, hleft, hrefused⟩
      rw [f.resolve_eq hcwd hpath] at hrefused
      split at hrefused
      · rename_i hcase
        cases hrefused
        exact ⟨rfl, hpath, hleft, hcase⟩
      · cases hrefused
    · rintro ⟨rfl, hpath, hleft, hcase⟩
      exact ⟨hpath, hleft, by rw [f.resolve_eq hcwd hpath, if_pos hcase]⟩

/-- A directory that is given by a path which leads up, and a file two names below it. -/
theorem output_path_taken_two_up :
    let f := Folder.below "x/../.."
    Path.isAbsolute "/a/b" = true ∧ Path.outputFault? "src/gen.rs" = none ∧
      Path.absolute "/a/b" f.root = Bytes.ofString "/a" ∧
      f.resolve "/a/b" "src/gen.rs" = .ok "/a/src/gen.rs" := by
  have hcwd : Path.isAbsolute (Bytes.ofString "/a/b") = true := by decide
  have hpath : Path.outputFault? (Bytes.ofString "src/gen.rs") = none := by decide
  refine ⟨hcwd, hpath, by decide, ?_⟩
  exact (((Folder.below "x/../..").output_path_taken_iff hcwd).1 _ hpath).2.2.2.1.mpr
    (.inl (by decide))

/-- Below the root a file is refused, although its path is an output path. -/
theorem output_path_refused_below_root :
    let f := Folder.below "/"
    let d : Disk := { tree := ⟨[(["w"], .folder)]⟩, cwd := ["w"] }
    Path.outputFault? "a.rs" = none ∧ f.resolve "/w" "a.rs" = .error (.outside "a.rs") ∧
      (f.write d .unlimited "a.rs" "x").outcome = .error (.outside "a.rs") :=
  ⟨by decide, rfl, rfl⟩

end Folder

end RpcBindings
