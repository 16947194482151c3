import RpcBindings.File.Tree
import RpcBindings.Proofs.Text.Bytes

/-!
# Names of a path

A path that starts at the root and is cleaned is the path of the names it is made of, and each of them
can stand for something in a directory: it is not empty, it is not one of the two names with points,
and it holds no slash.  The last name of a path is what stands behind its last slash.  Any cleaned path
is made of its names, and a name joined to a directory comes behind the names of the directory.
-/

set_option autoImplicit false

namespace RpcBindings.Path

/-! ## Names -/

/-- The bytes can stand for something in a directory. -/
structure IsName (name : Bytes) : Prop where
  ne_nil : name ≠ []
  ne_here : name ≠ here
  ne_up : name ≠ up
  no_separator : separator ∉ name

instance (name : Bytes) : Decidable (IsName name) :=
  decidable_of_iff (name ≠ [] ∧ name ≠ here ∧ name ≠ up ∧ separator ∉ name)
    ⟨fun h => ⟨h.1, h.2.1, h.2.2.1, h.2.2.2⟩,
      fun h => ⟨h.ne_nil, h.ne_here, h.ne_up, h.no_separator⟩⟩

theorem push_of_isName {name : Bytes} (h : IsName name) (rooted : Bool) (kept : List Bytes) :
    push rooted kept name = name :: kept := by
  simp [push, h.ne_nil, h.ne_here, h.ne_up]

theorem push_isName {kept : List Bytes} {name : Bytes} (hkept : ∀ k ∈ kept, IsName k)
    (hname : separator ∉ name) : ∀ k ∈ push true kept name, IsName k := by
  unfold push
  split
  · exact hkept
  · rename_i hdot
    split
    · cases kept with
      | nil => simp
      | cons last others =>
          rw [List.forall_mem_cons] at hkept
          simpa only [if_neg hkept.1.ne_up] using hkept.2
    · rename_i hup
      rw [not_or] at hdot
      exact List.forall_mem_cons.mpr ⟨⟨hdot.1, hdot.2, hup, hname⟩, hkept⟩

theorem foldl_push_isName {parts : List Bytes} (hparts : ∀ part ∈ parts, separator ∉ part)
    {kept : List Bytes} (hkept : ∀ k ∈ kept, IsName k) :
    ∀ k ∈ parts.foldl (push true) kept, IsName k := by
  induction parts generalizing kept with
  | nil => exact hkept
  | cons part parts ih =>
      rw [List.forall_mem_cons] at hparts
      exact ih hparts.2 (push_isName hkept hparts.1)

theorem isName_of_mem_names {path name : Bytes} (h : isAbsolute path = true)
    (hname : name ∈ names path) : IsName name := by
  rw [names, h, List.mem_reverse] at hname
  exact foldl_push_isName (fun _ => Bytes.not_mem_of_mem_split) (by simp) name hname

/-! ## Paths of names -/

theorem clean_of_isAbsolute {path : Bytes} (h : isAbsolute path = true) :
    clean path = File.pathOf (names path) := by
  rw [clean, if_pos h]
  rfl

theorem isAbsolute_cons_separator (bs : Bytes) : isAbsolute (separator :: bs) = true := by
  simp [isAbsolute]

theorem isAbsolute_clean {path : Bytes} (h : isAbsolute path = true) :
    isAbsolute (clean path) = true := by
  rw [clean_of_isAbsolute h]
  exact isAbsolute_cons_separator _

theorem isAbsolute_iff {path : Bytes} :
    isAbsolute path = true ↔ ∃ rest, path = separator :: rest := by
  cases path with
  | nil => simp [isAbsolute]
  | cons b path => simp [isAbsolute]

/-- The path ends in a slash and the name. -/
def EndsIn (path name : Bytes) : Prop := ∃ lead, path = lead ++ separator :: name

theorem pathOf_append_endsIn (names : List Bytes) (name : Bytes) :
    EndsIn (File.pathOf (names ++ [name])) name := by
  by_cases h : names = []
  · subst h
    exact ⟨[], rfl⟩
  · refine ⟨separator :: Bytes.join [separator] names, ?_⟩
    rw [File.pathOf, Bytes.join_append _ h (List.cons_ne_nil _ _), List.append_assoc]
    rfl

theorem EndsIn.split {path name : Bytes} (h : EndsIn path name) (hname : IsName name) :
    ∃ parts, Bytes.split separator path = parts ++ [name] := by
  rcases h with ⟨lead, rfl⟩
  exact ⟨_, by rw [Bytes.split_append_cons, Bytes.split_of_not_mem hname.no_separator]⟩

theorem EndsIn.base_eq {path name : Bytes} (h : EndsIn path name) (hname : IsName name) :
    base path = name := by
  rcases h with ⟨lead, rfl⟩
  have hsep : ∀ b ∈ name.reverse, (b != separator) = true := by
    intro b hb
    rw [bne_iff_ne]
    rintro rfl
    exact hname.no_separator (List.mem_reverse.mp hb)
  have hreverse : (lead ++ separator :: name).reverse =
      name.reverse ++ separator :: lead.reverse := by simp
  have hkept : Bytes.dropTrailing separator (lead ++ separator :: name) =
      lead ++ separator :: name := by
    rw [Bytes.dropTrailing, hreverse]
    cases hrev : name.reverse with
    | nil => exact absurd (List.reverse_eq_nil_iff.mp hrev) hname.ne_nil
    | cons b rest =>
        have hb : b ≠ separator := bne_iff_ne.mp (hsep b (by simp [hrev]))
        rw [List.cons_append, List.dropWhile_cons_of_neg (by simpa using hb), ← List.cons_append,
          ← hrev, ← hreverse, List.reverse_reverse]
  rw [base, if_neg (by simp), hkept]
  cases hpath : lead ++ separator :: name with
  | nil => exact absurd hpath (by simp)
  | cons b rest =>
      show lastName _ = name
      rw [← hpath, lastName, hreverse, List.takeWhile_append_of_pos hsep,
        List.takeWhile_cons_of_neg (by simp), List.append_nil, List.reverse_reverse]

/-! ## The directory of a path -/

theorem isAbsolute_directory {path : Bytes} (h : isAbsolute path = true) :
    isAbsolute (directory path) = true := by
  refine isAbsolute_clean ?_
  rcases isAbsolute_iff.mp h with ⟨rest, rfl⟩
  have hcut : leading (separator :: rest) ++ lastName (separator :: rest) = separator :: rest := by
    rw [leading, lastName, ← List.reverse_append, List.takeWhile_append_dropWhile,
      List.reverse_reverse]
  cases hleading : leading (separator :: rest) with
  | nil =>
      -- The last name holds no slash, so it is not the whole path.
      rw [hleading, List.nil_append] at hcut
      have hmem : separator ∈ lastName (separator :: rest) := by simp [hcut]
      rw [lastName, List.mem_reverse] at hmem
      have hall := @List.all_takeWhile _ (· != separator) (separator :: rest).reverse
      exact absurd rfl (bne_iff_ne.mp (List.all_eq_true.mp hall separator hmem))
  | cons b lead =>
      rw [hleading, List.cons_append] at hcut
      rw [(List.cons.inj hcut).1]
      exact isAbsolute_cons_separator lead

/-! ## The names of a cleaned path -/

/-- What cleaning can keep of a path: a name, or two points. -/
structure IsKept (name : Bytes) : Prop where
  ne_nil : name ≠ []
  ne_here : name ≠ here
  no_separator : separator ∉ name

theorem push_isKept {rooted : Bool} {kept : List Bytes} {name : Bytes} (hkept : ∀ k ∈ kept, IsKept k)
    (hname : separator ∉ name) : ∀ k ∈ push rooted kept name, IsKept k := by
  have hup : IsKept up := ⟨by decide, by decide, by decide⟩
  unfold push
  split
  · exact hkept
  · rename_i hdot
    rw [not_or] at hdot
    split
    · cases kept with
      | nil => cases rooted <;> simp [hup]
      | cons last others =>
          simp only
          split
          · exact List.forall_mem_cons.mpr ⟨hup, hkept⟩
          · exact (List.forall_mem_cons.mp hkept).2
    · exact List.forall_mem_cons.mpr ⟨⟨hdot.1, hdot.2, hname⟩, hkept⟩

theorem isKept_of_mem_names {path name : Bytes} (hname : name ∈ names path) : IsKept name := by
  have hfold : ∀ (rooted : Bool) (parts kept : List Bytes), (∀ part ∈ parts, separator ∉ part) →
      (∀ k ∈ kept, IsKept k) → ∀ k ∈ parts.foldl (push rooted) kept, IsKept k := by
    intro rooted parts
    induction parts with
    | nil => exact fun kept _ hkept => hkept
    | cons part parts ih =>
        intro kept hparts hkept
        rw [List.forall_mem_cons] at hparts
        exact ih _ hparts.2 (push_isKept hkept hparts.1)
  exact hfold _ _ _ (fun _ => Bytes.not_mem_of_mem_split) (by simp) name (List.mem_reverse.mp hname)

theorem split_join_names {path : Bytes} (h : names path ≠ []) :
    Bytes.split separator (Bytes.join [separator] (names path)) = names path :=
  Bytes.split_join h fun _ hname => (isKept_of_mem_names hname).no_separator

/-- A cleaned path is made of its names, behind parts that stay where they are. -/
theorem exists_split_clean (path : Bytes) :
    ∃ blanks, Bytes.split separator (clean path) = blanks ++ names path ∧
      ∀ blank ∈ blanks, blank = [] ∨ blank = here := by
  unfold clean
  by_cases hroot : isAbsolute path = true
  · rw [if_pos hroot]
    by_cases hnames : names path = []
    · exact ⟨[[], []], by rw [hnames]; decide, by simp⟩
    · refine ⟨[[]], ?_, by simp⟩
      rw [Bytes.split, if_pos rfl, split_join_names hnames]
      rfl
  · rw [if_neg hroot]
    by_cases hnames : names path = []
    · exact ⟨[here], by rw [hnames]; decide, by simp⟩
    · refine ⟨[], ?_, by simp⟩
      rw [if_neg, split_join_names hnames]
      · rfl
      · intro hnil
        have hsplit := split_join_names hnames
        rw [hnil] at hsplit
        have hblank : [] ∈ names path := by
          rw [← hsplit]
          decide
        exact (isKept_of_mem_names hblank).ne_nil rfl

theorem isAbsolute_clean_eq (path : Bytes) : isAbsolute (clean path) = isAbsolute path := by
  by_cases hroot : isAbsolute path = true
  · rw [hroot, isAbsolute_clean hroot]
  rw [clean, if_neg hroot, Bool.eq_false_iff.mpr hroot, Bool.eq_false_iff]
  split
  · decide
  intro habsolute
  obtain ⟨rest, hrest⟩ := isAbsolute_iff.mp habsolute
  -- The text in front of the slash would be one of the names, and it is empty.
  have hblank : [] ∈ names path := by
    by_cases hnames : names path = []
    · simp [hnames, Bytes.join] at hrest
    · rw [← split_join_names hnames, hrest]
      simp [Bytes.split]
  exact (isKept_of_mem_names hblank).ne_nil rfl

/-- A name in a directory comes behind the names of the directory. -/
theorem exists_join (dir : Bytes) {name : Bytes} (hname : IsName name) :
    ∃ path, join dir name = clean path ∧ names path = names dir ++ [name] ∧
      isAbsolute path = isAbsolute dir := by
  cases dir with
  | nil =>
      have hrelative : isAbsolute name = false := by
        rw [Bool.eq_false_iff]
        intro habsolute
        obtain ⟨rest, rfl⟩ := isAbsolute_iff.mp habsolute
        exact hname.no_separator (by simp)
      refine ⟨name, by simp [join, hname.ne_nil], ?_, hrelative⟩
      rw [names, Bytes.split_of_not_mem hname.no_separator, List.foldl_cons, List.foldl_nil,
        push_of_isName hname]
      rfl
  | cons b dir =>
      refine ⟨b :: dir ++ [separator] ++ name, by simp [join], ?_, rfl⟩
      have hsplit : Bytes.split separator (b :: dir ++ [separator] ++ name) =
          Bytes.split separator (b :: dir) ++ [name] := by
        rw [List.append_assoc, List.singleton_append, Bytes.split_append_cons,
          Bytes.split_of_not_mem hname.no_separator]
      rw [names, hsplit, List.foldl_append, List.foldl_cons, List.foldl_nil, push_of_isName hname,
        List.reverse_cons]
      rfl

end RpcBindings.Path
