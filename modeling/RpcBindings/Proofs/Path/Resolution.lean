import RpcBindings.Proofs.Path.Output

/-!
# Paths seen from a directory

Seen from a directory, a path stands for names from the root.  Cleaning the path first does not change
them, although it lets two points cancel a name before it is known where the path starts.  So an output
path that is joined to another path adds its names behind those that the other path stands for.
-/

set_option autoImplicit false

namespace RpcBindings.Path

variable {base kept : List Bytes} {path : Bytes}

/-- The names from the root that a path stands for, seen from the place with the names `base`. -/
def seenFrom (base : List Bytes) (path : Bytes) : List Bytes :=
  ((Bytes.split separator path).foldl (push true)
    (if isAbsolute path then [] else base.reverse)).reverse

theorem seenFrom_of_isAbsolute (h : isAbsolute path = true) (base : List Bytes) :
    seenFrom base path = names path := by
  rw [seenFrom, names, h, if_pos rfl]

theorem isName_of_mem_seenFrom (hbase : ∀ name ∈ base, IsName name) :
    ∀ name ∈ seenFrom base path, IsName name := by
  intro name hname
  refine foldl_push_isName (fun _ => Bytes.not_mem_of_mem_split) ?_ name (List.mem_reverse.mp hname)
  split
  · simp
  · exact fun k hk => hbase k (List.mem_reverse.mp hk)

theorem absolute_eq_pathOf {cwd : Bytes} (h : isAbsolute cwd = true) (path : Bytes) :
    absolute cwd path = File.pathOf (seenFrom (names cwd) path) := by
  unfold absolute
  split
  · rename_i hpath
    rw [clean_of_isAbsolute hpath, seenFrom_of_isAbsolute hpath]
  · rename_i hpath
    obtain ⟨rest, rfl⟩ := isAbsolute_iff.mp h
    have hjoined : isAbsolute (separator :: rest ++ separator :: path) = true :=
      isAbsolute_cons_separator _
    rw [join, if_neg (List.cons_ne_nil _ _), List.append_assoc, List.singleton_append,
      clean_of_isAbsolute hjoined, names, hjoined, Bytes.split_append_cons, List.foldl_append,
      seenFrom, if_neg hpath, names, h, List.reverse_reverse]

/-- Seen from a directory, every path becomes the path of some names. -/
theorem exists_names_absolute {cwd : Bytes} (h : isAbsolute cwd = true) (path : Bytes) :
    ∃ ns, absolute cwd path = File.pathOf ns ∧ ∀ name ∈ ns, IsName name :=
  ⟨_, absolute_eq_pathOf h path, isName_of_mem_seenFrom fun _ => isName_of_mem_names h⟩

/-! ## The path of names -/

theorem isAbsolute_pathOf (ns : List Bytes) : isAbsolute (File.pathOf ns) = true :=
  isAbsolute_cons_separator _

theorem push_of_blank {blank : Bytes} (h : blank = [] ∨ blank = here) (rooted : Bool)
    (kept : List Bytes) : push rooted kept blank = kept := by
  simp only [push, if_pos h]

/-- The path of names is made of these names. -/
theorem names_pathOf {ns : List Bytes} (h : ∀ name ∈ ns, IsName name) :
    names (File.pathOf ns) = ns := by
  rw [names, isAbsolute_pathOf, File.pathOf, Bytes.split, if_pos rfl, List.foldl_cons,
    push_of_blank (.inl rfl)]
  by_cases hns : ns = []
  · subst hns
    rfl
  · rw [Bytes.split_join hns fun name hname => (h name hname).no_separator,
      foldl_push_of_isName h, List.append_nil, List.reverse_reverse]

theorem clean_pathOf {ns : List Bytes} (h : ∀ name ∈ ns, IsName name) :
    clean (File.pathOf ns) = File.pathOf ns := by
  rw [clean_of_isAbsolute (isAbsolute_pathOf ns), names_pathOf h]

/-! ## Cleaning first -/

/-- Names that were put on a stack of kept names can be put on a base instead, one after another: a name
that two points take from the stack is one that they take from the base with the names on it. -/
theorem foldl_reverse_push (hkept : ∀ k ∈ kept, IsKept k) (part : Bytes) :
    (push false kept part).reverse.foldl (push true) base =
      push true (kept.reverse.foldl (push true) base) part := by
  have hadd : ∀ (name : Bytes) (others : List Bytes),
      (name :: others).reverse.foldl (push true) base =
        push true (others.reverse.foldl (push true) base) name := by
    simp
  by_cases hblank : part = [] ∨ part = here
  · rw [push_of_blank hblank, push_of_blank hblank]
  · by_cases hup : part = up
    · subst hup
      cases kept with
      | nil => rfl
      | cons last others =>
          by_cases hlast : last = up
          · subst hlast
            exact hadd up (up :: others)
          · have hname : IsName last :=
              ⟨(hkept last (by simp)).ne_nil, (hkept last (by simp)).ne_here, hlast,
                (hkept last (by simp)).no_separator⟩
            rw [hadd, push_of_isName hname]
            simp only [push, if_neg hblank, if_pos, if_neg hlast]
    · have hpush : push false kept part = part :: kept := by
        simp only [push, if_neg hblank, if_neg hup]
      rw [hpush, hadd]

theorem foldl_reverse_foldl_push {parts : List Bytes} (hparts : ∀ part ∈ parts, separator ∉ part)
    (hkept : ∀ k ∈ kept, IsKept k) :
    (parts.foldl (push false) kept).reverse.foldl (push true) base =
      parts.foldl (push true) (kept.reverse.foldl (push true) base) := by
  induction parts generalizing kept with
  | nil => rfl
  | cons part parts ih =>
      rw [List.forall_mem_cons] at hparts
      rw [List.foldl_cons, List.foldl_cons, ih hparts.2 (push_isKept hkept hparts.1),
        foldl_reverse_push hkept]

/-- The names of a cleaned path, put on a base, give what the path itself gives. -/
theorem foldl_names (hrelative : isAbsolute path = false) (base : List Bytes) :
    (names path).foldl (push true) base = (Bytes.split separator path).foldl (push true) base := by
  rw [names, hrelative,
    foldl_reverse_foldl_push (fun _ => Bytes.not_mem_of_mem_split) (by simp)]
  rfl

theorem foldl_push_blanks {blanks : List Bytes} (h : ∀ blank ∈ blanks, blank = [] ∨ blank = here)
    (kept : List Bytes) : blanks.foldl (push true) kept = kept := by
  induction blanks with
  | nil => rfl
  | cons blank blanks ih =>
      rw [List.forall_mem_cons] at h
      rw [List.foldl_cons, push_of_blank h.1, ih h.2]

/-- A path and its cleaned form stand for the same names. -/
theorem seenFrom_clean (base : List Bytes) (path : Bytes) :
    seenFrom base (clean path) = seenFrom base path := by
  obtain ⟨blanks, hsplit, hblanks⟩ := exists_split_clean path
  unfold seenFrom
  rw [hsplit, List.foldl_append, foldl_push_blanks hblanks, isAbsolute_clean_eq]
  cases hroot : isAbsolute path with
  | false => rw [foldl_names hroot]
  | true =>
      rw [if_pos rfl, foldl_push_of_isName fun _ => isName_of_mem_names hroot, List.append_nil,
        List.reverse_reverse, names, hroot]

/-! ## Output paths below other paths -/

/-- The names of an output path; the single point has none. -/
def components (path : Bytes) : List Bytes :=
  if path = here then [] else Bytes.split separator path

theorem isName_of_mem_components (h : outputFault? path = none) :
    ∀ name ∈ components path, IsName name := by
  unfold components
  split
  · simp
  · rename_i hhere
    exact ((outputFault?_eq_none_iff_onlyNames.mp h).resolve_left hhere).2

theorem components_eq_nil_iff : components path = [] ↔ path = here := by
  unfold components
  split
  · simp [*]
  · simp [*, Bytes.split_ne_nil]

theorem foldl_split_of_output (h : outputFault? path = none) (kept : List Bytes) :
    (Bytes.split separator path).foldl (push true) kept = (components path).reverse ++ kept := by
  by_cases hhere : path = here
  · subst hhere
    rfl
  · have honly := ((outputFault?_eq_none_iff_onlyNames.mp h).resolve_left hhere).2
    rw [components, if_neg hhere, foldl_push_of_isName honly]

/-- An output path that is joined to a path comes behind the names of this path. -/
theorem seenFrom_join (h : outputFault? path = none) (base : List Bytes) (dir : Bytes) :
    seenFrom base (join dir path) = seenFrom base dir ++ components path := by
  obtain ⟨hne, hrelative, -⟩ := outputFault?_eq_none_iff.mp h
  unfold join
  by_cases hdir : dir = []
  · rw [if_pos hdir, if_neg hne, seenFrom_clean, seenFrom, hrelative, foldl_split_of_output h, hdir]
    simp [seenFrom, Bytes.split, isAbsolute, push]
  · have hroot : isAbsolute (dir ++ [separator] ++ path) = isAbsolute dir := by
      cases dir with
      | nil => exact absurd rfl hdir
      | cons b rest => rfl
    rw [if_neg hdir, seenFrom_clean, seenFrom, hroot, List.append_assoc, List.singleton_append,
      Bytes.split_append_cons, List.foldl_append, foldl_split_of_output h, List.reverse_append,
      List.reverse_reverse]
    rfl

end RpcBindings.Path
