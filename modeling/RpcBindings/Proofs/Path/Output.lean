import Mathlib.Tactic.SplitIfs
import RpcBindings.Path.Output
import RpcBindings.Proofs.Path.Clean

/-!
# The grammar of output paths

The check of an output path compares the path with its cleaned form.  What passes is a plain list of
names: the parts between the slashes are all names of something, neither empty nor one of the two names
with points.  The one path besides these is the single point.
-/

set_option autoImplicit false

namespace RpcBindings.Path

variable {path : Bytes}

/-! ## Names are kept -/

/-- Names go on top of what was kept, one after another. -/
theorem foldl_push_of_isName {parts : List Bytes} (h : ∀ part ∈ parts, IsName part) (rooted : Bool)
    (kept : List Bytes) : parts.foldl (push rooted) kept = parts.reverse ++ kept := by
  induction parts generalizing kept with
  | nil => rfl
  | cons part parts ih =>
      rw [List.forall_mem_cons] at h
      rw [List.foldl_cons, push_of_isName h.1, ih h.2, List.reverse_cons, List.append_assoc]
      rfl

/-- The parts of the path are all names. -/
def OnlyNames (path : Bytes) : Prop := ∀ part ∈ Bytes.split separator path, IsName part

theorem onlyNames_iff :
    OnlyNames path ↔
      ∀ part ∈ Bytes.split separator path, part ≠ [] ∧ part ≠ here ∧ part ≠ up := by
  constructor
  · intro h part hpart
    exact ⟨(h part hpart).ne_nil, (h part hpart).ne_here, (h part hpart).ne_up⟩
  · intro h part hpart
    obtain ⟨hnil, hhere, hup⟩ := h part hpart
    exact ⟨hnil, hhere, hup, Bytes.not_mem_of_mem_split hpart⟩

theorem OnlyNames.ne_nil (h : OnlyNames path) : path ≠ [] := by
  rintro rfl
  exact (h [] (by decide)).ne_nil rfl

/-- Such a path does not start at the root: nothing stands in front of the first slash of one that
does. -/
theorem OnlyNames.isAbsolute_eq (h : OnlyNames path) : isAbsolute path = false := by
  rw [Bool.eq_false_iff]
  intro habsolute
  obtain ⟨rest, rfl⟩ := isAbsolute_iff.mp habsolute
  exact (h [] (by simp [Bytes.split])).ne_nil rfl

theorem OnlyNames.names_eq (h : OnlyNames path) : names path = Bytes.split separator path := by
  rw [names, foldl_push_of_isName h, List.append_nil, List.reverse_reverse]

theorem OnlyNames.clean_eq (h : OnlyNames path) : clean path = path := by
  simp only [clean, h.isAbsolute_eq, h.names_eq, Bytes.join_split, if_neg h.ne_nil]
  rfl

/-! ## What passes the check -/

theorem outputFault?_eq_none_iff :
    outputFault? path = none ↔
      path ≠ [] ∧ isAbsolute path = false ∧ startsWithDrive path = false ∧
        up ∉ Bytes.split separator path ∧ clean path = path := by
  unfold outputFault?
  split_ifs with hempty habsolute hup hclean
  · simp [hempty]
  · rw [Bool.or_eq_true] at habsolute
    rcases habsolute with h | h <;> simp [h]
  · simp [hup]
  · simp [hclean]
  · rw [Bool.or_eq_true, not_or, Bool.not_eq_true, Bool.not_eq_true] at habsolute
    simp [hempty, habsolute, hup, Decidable.not_not.mp hclean]

/-- A clean path that does not start at the root and never leads up is a single point or a list of
names. -/
theorem eq_here_or_onlyNames (hrelative : isAbsolute path = false)
    (hup : up ∉ Bytes.split separator path) (hclean : clean path = path) :
    path = here ∨ OnlyNames path := by
  rw [clean, if_neg (by simp [hrelative])] at hclean
  split at hclean
  · exact .inl hclean.symm
  · rename_i hbody
    have hnames : names path ≠ [] := by
      intro hnil
      exact hbody (by rw [hnil]; rfl)
    have hsplit : Bytes.split separator path = names path := by
      rw [← split_join_names hnames, hclean]
    refine .inr ?_
    intro part hpart
    have hkept : IsKept part := isKept_of_mem_names (hsplit ▸ hpart)
    exact ⟨hkept.ne_nil, hkept.ne_here, fun heq => hup (heq ▸ hpart), hkept.no_separator⟩

/-- An output path is a single point or a list of names that is no drive. -/
theorem outputFault?_eq_none_iff_onlyNames :
    outputFault? path = none ↔ path = here ∨ startsWithDrive path = false ∧ OnlyNames path := by
  rw [outputFault?_eq_none_iff]
  constructor
  · rintro ⟨-, hrelative, hdrive, hup, hclean⟩
    exact (eq_here_or_onlyNames hrelative hup hclean).imp_right fun h => ⟨hdrive, h⟩
  · rintro (rfl | ⟨hdrive, h⟩)
    · decide
    · exact ⟨h.ne_nil, h.isAbsolute_eq, hdrive, fun hup => (h up hup).ne_up rfl, h.clean_eq⟩

theorem startsWithDrive_eq_false_iff :
    startsWithDrive path = false ↔
      ∀ letter rest, path = letter :: 0x3A :: rest → isAsciiLetter letter = false := by
  unfold startsWithDrive
  split
  · rename_i letter rest
    simp
  · rename_i hshape
    simp only [true_iff]
    intro letter rest hpath
    exact absurd hpath (hshape letter rest)

/-- A path can be written to exactly if it is a single point, or if it does not start with a letter and
a colon and the parts between its slashes are neither empty nor a name with points. -/
theorem output_path_grammar (path : Bytes) :
    outputFault? path = none ↔
      path = here ∨
        (∀ letter rest, path = letter :: 0x3A :: rest → isAsciiLetter letter = false) ∧
          ∀ part ∈ Bytes.split separator path, part ≠ [] ∧ part ≠ here ∧ part ≠ up := by
  rw [outputFault?_eq_none_iff_onlyNames, startsWithDrive_eq_false_iff, onlyNames_iff]

end RpcBindings.Path
