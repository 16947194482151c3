import RpcBindings.Proofs.Generation.Stops
import RpcBindings.Proofs.Glob.Grammar
import RpcBindings.Proofs.Settings.RustPath

/-!
# The verdict on settings (SPEC §8)

Settings are checked once their defaults are filled in.  What they may be can be said without defaults:
a field that was left empty is as good as its default, which passes its own check.  The failure names
each field that is wrong, with what was given for it, and no other.

Of a pattern only the first chunk is checked, so a pattern may pass that is not well formed.
-/

set_option autoImplicit false

namespace RpcBindings.Settings

open Generation (validate)

/-! ## What each field may be -/

/-- The field may be as it was given. -/
def Admits (s : Settings) : Field → Prop
  | .schemaDir => s.schemaDir ≠ []
  | .pattern =>
      s.pattern = [] ∨ ∀ chunk ∈ (Glob.chunks s.pattern).head?, Glob.Derives chunk.text
  | .outputFile => s.outputFile = [] ∨ Path.outputFault? s.outputFile = none
  | .servicesPath => s.servicesPath = [] ∨ RustPath.Derives s.servicesPath
  | .clientPath => s.clientPath = [] ∨ RustPath.Derives s.clientPath
  | .schemaPath => s.schemaPath = [] ∨ RustPath.Derives s.schemaPath
  | .indentSize => 0 ≤ s.indentSize ∧ s.indentSize ≤ 16

/-- What is said of a field that may not be as it was given. -/
def complaint (s : Settings) : Field → Bytes
  | .schemaDir => "required"
  | .pattern => quote s.pattern ++ " is not a valid glob pattern"
  | .outputFile => quote s.outputFile ++ " must be a clean relative path"
  | .servicesPath => quote s.servicesPath ++ " is not a Rust path"
  | .clientPath => quote s.clientPath ++ " is not a Rust path"
  | .schemaPath => quote s.schemaPath ++ " is not a Rust path"
  | .indentSize => if s.indentSize < 0 then "must be at least 1" else "must be at most 16"

/-! ## Defaults -/

theorem orElse_orElse (text other : Bytes) : orElse (orElse text other) other = orElse text other := by
  unfold orElse
  split_ifs <;> rfl

/-- Filling defaults in a second time changes nothing. -/
theorem withDefaults_withDefaults (s : Settings) : s.withDefaults.withDefaults = s.withDefaults := by
  have hindent : s.withDefaults.withDefaults.indentSize = s.withDefaults.indentSize := by
    simp only [withDefaults]
    split_ifs <;> rfl
  have hfrontmatter : s.withDefaults.withDefaults.frontmatter = s.withDefaults.frontmatter := by
    simp only [withDefaults]
    split_ifs
    · rfl
    · exact orElse_orElse _ _
  simp only [withDefaults, orElse_orElse] at hindent hfrontmatter ⊢
  rw [hindent, hfrontmatter]

theorem faults_withDefaults (s : Settings) : s.withDefaults.faults = s.faults := by
  rw [faults, faults, withDefaults_withDefaults]

/-! ## Objections -/

/-- The check of a field objects exactly if the field may not be as it was given, and says so. -/
def Judges (admitted : Prop) (complaint : Bytes) (objection? : Option Objection) : Prop :=
  (admitted ∧ objection? = none) ∨
    (¬ admitted ∧ ∃ objection, objection? = some objection ∧ objection.message = complaint)

/-- A path of the generated code whose default is a path. -/
theorem judges_rustPath {other : Bytes} (hother : RustPath.isPath other = true) (text : Bytes) :
    Judges (text = [] ∨ RustPath.Derives text) (quote text ++ " is not a Rust path")
      (rustPathObjection? (orElse text other)) := by
  unfold rustPathObjection? orElse
  rw [← RustPath.isPath_iff]
  by_cases hempty : text = []
  · rw [if_pos hempty, if_pos hother]
    exact .inl ⟨.inl hempty, rfl⟩
  · rw [if_neg hempty]
    split_ifs with hpath
    · exact .inl ⟨.inr hpath, rfl⟩
    · exact .inr ⟨by simp [hempty, hpath], _, rfl, rfl⟩

theorem judges_outputFile (s : Settings) :
    Judges (s.Admits .outputFile) (s.complaint .outputFile) (s.withDefaults.objection? .outputFile) := by
  have hdefault : Path.outputFault? defaultOutputFile = none := by decide
  simp only [Admits, objection?, withDefaults, orElse]
  by_cases hempty : s.outputFile = []
  · simp only [if_pos hempty, hdefault]
    exact .inl ⟨.inl hempty, rfl⟩
  · simp only [if_neg hempty]
    cases hfault : Path.outputFault? s.outputFile with
    | none => exact .inl ⟨.inr rfl, rfl⟩
    | some fault => exact .inr ⟨by simp [hempty], _, rfl, rfl⟩

theorem judges_pattern (s : Settings) :
    Judges (s.Admits .pattern) (s.complaint .pattern) (s.withDefaults.objection? .pattern) := by
  simp only [Admits, ← Glob.isGlob_iff_derives]
  by_cases hadmits : s.pattern = [] ∨ isGlob s.pattern = true
  · exact .inl ⟨hadmits, if_pos hadmits⟩
  · exact .inr ⟨hadmits, _, if_neg hadmits, rfl⟩

theorem judges_indentSize (s : Settings) :
    Judges (s.Admits .indentSize) (s.complaint .indentSize)
      (s.withDefaults.objection? .indentSize) := by
  have hfilled : s.withDefaults.indentSize = if s.indentSize = 0 then 4 else s.indentSize := rfl
  have hsmall : s.withDefaults.indentSize < (minIndent : Int) ↔ s.indentSize < 0 := by
    rw [hfilled, minIndent]
    split_ifs <;> omega
  have hlarge : s.withDefaults.indentSize > (maxIndent : Int) ↔ 16 < s.indentSize := by
    rw [hfilled, maxIndent]
    split_ifs <;> omega
  simp only [Admits, complaint, objection?, hsmall, hlarge]
  split_ifs
  · exact .inr ⟨by omega, .tooSmall, rfl, rfl⟩
  · exact .inr ⟨by omega, .tooLarge, rfl, rfl⟩
  · exact .inl ⟨by omega, rfl⟩

/-- Each check objects exactly to what may not be. -/
theorem judges_objection? (s : Settings) (field : Field) :
    Judges (s.Admits field) (s.complaint field) (s.withDefaults.objection? field) := by
  cases field with
  | schemaDir =>
      by_cases hempty : s.schemaDir = []
      · exact .inr ⟨fun hadmits => hadmits hempty, .required, if_pos hempty, rfl⟩
      · exact .inl ⟨hempty, if_neg hempty⟩
  | pattern => exact s.judges_pattern
  | outputFile => exact s.judges_outputFile
  | servicesPath => exact judges_rustPath (by decide) s.servicesPath
  | clientPath => exact judges_rustPath (by decide) s.clientPath
  | schemaPath => exact judges_rustPath (by decide) s.schemaPath
  | indentSize => exact s.judges_indentSize

theorem isSome_objection?_iff (s : Settings) (field : Field) :
    (s.withDefaults.objection? field).isSome = true ↔ ¬ s.Admits field := by
  obtain ⟨hadmits, hnone⟩ | ⟨hrefused, objection, hsome, -⟩ := s.judges_objection? field
  · simp [hnone, hadmits]
  · simp [hsome, hrefused]

/-! ## Validation -/

/-- The faults are the refused fields in their order, each with what is said of it. -/
theorem map_message_faults (s : Settings) :
    s.faults.map FieldFault.message =
      (fields.filter fun field => (s.withDefaults.objection? field).isSome).map
        fun field => field.name ++ ": " ++ s.complaint field := by
  unfold faults
  induction fields with
  | nil => rfl
  | cons field rest ih =>
      obtain ⟨-, hnone⟩ | ⟨-, objection, hsome, hmessage⟩ := s.judges_objection? field
      · simpa [hnone] using ih
      · simpa [hsome, FieldFault.message, hmessage] using ih

theorem faults_eq_nil_iff_admits (s : Settings) : s.faults = [] ↔ ∀ field, s.Admits field := by
  rw [faults_eq_nil_iff]
  refine forall_congr' fun field => ?_
  rw [← not_iff_not, ← isSome_objection?_iff, Option.isSome_iff_ne_none]

theorem validate_eq_error {s : Settings} {f : Failure} (h : validate s = .error f) :
    f = .coded Code.config [] (.settings s.faults) := by
  unfold validate at h
  cases hfaults : s.faults <;> simp_all

/-- Settings are accepted exactly if every field may be as it was given.  Otherwise the failure is one of
the settings, and lists the fields that may not, in their order and each once.  Settings with their
defaults filled in are judged as they were without, and have no defaults left to fill in.  All chunks of
a well-formed pattern are well formed, so it is accepted; that its first chunk is, is all that is asked. -/
theorem settings_verdict (s : Settings) :
    (validate s = .ok () ↔ ∀ field, s.Admits field) ∧
      (∀ f, validate s = .error f →
        f.code? = some Code.config ∧
          ∃ offending : List Field,
            offending.Sublist [.schemaDir, .pattern, .outputFile, .servicesPath, .clientPath, .schemaPath,
              .indentSize] ∧
            offending.Nodup ∧ (∀ field, field ∈ offending ↔ ¬ s.Admits field) ∧
            f.message = "config: " ++ Bytes.join "; "
              (offending.map fun field => field.name ++ ": " ++ s.complaint field)) ∧
      s.withDefaults.withDefaults = s.withDefaults ∧ validate s.withDefaults = validate s ∧
      (Glob.Derives s.pattern ↔ ∀ chunk ∈ Glob.chunks s.pattern, Glob.Derives chunk.text) := by
  refine ⟨Generation.validate_eq_ok_iff.trans s.faults_eq_nil_iff_admits, fun f hf => ?_,
    s.withDefaults_withDefaults, ?_, Glob.derives_iff_chunks⟩
  · obtain rfl := validate_eq_error hf
    have hsublist := List.filter_sublist (l := fields)
      (p := fun field => (s.withDefaults.objection? field).isSome)
    refine ⟨rfl, _, hsublist, hsublist.nodup (by decide), fun field => ?_, ?_⟩
    · have hlisted : field ∈ fields := by cases field <;> decide
      rw [List.mem_filter, isSome_objection?_iff]
      exact and_iff_right hlisted
    · rw [← map_message_faults]
      rfl
  · rw [validate, validate, faults_withDefaults]

/-- Settings with three fields that are wrong. -/
def threeFaults : Settings :=
  { Settings.empty with servicesPath := "a::", clientPath := "::r#type::B_1", indentSize := 17 }

theorem settings_verdict_three :
    ∃ f, validate threeFaults = .error f ∧ f.code? = some Code.config ∧
      ∃ offending : List Field, (∀ field, field ∈ offending ↔ ¬ threeFaults.Admits field) ∧
        f.message = "config: " ++ Bytes.join "; "
          (offending.map fun field => field.name ++ ": " ++ threeFaults.complaint field) ∧
        f.message = Bytes.ofString ("config: SchemaDir: required; ServicesPath: \"a::\" is not a Rust path; " ++
          "IndentSize: must be at most 16") := by
  have hfails : validate threeFaults = .error (.coded Code.config []
      (.settings [⟨.schemaDir, .required⟩, ⟨.servicesPath, .notRustPath "a::"⟩,
        ⟨.indentSize, .tooLarge⟩])) := by decide +kernel
  obtain ⟨hcode, offending, -, -, hmem, hmessage⟩ := (settings_verdict threeFaults).2.1 _ hfails
  exact ⟨_, hfails, hcode, offending, hmem, hmessage, by decide +kernel⟩

/-- A pattern with a set that is not closed is no glob, and matching it fails for a name that gets to the
set; but settings with it are accepted, because a chunk comes before the set. -/
theorem ill_formed_pattern_accepted :
    ¬ Glob.Derives "[a]*[b" ∧ Glob.matches? "[a]*[b" "a" = .error .badPattern ∧
      validate (Generation.settingsWith "[a]*[b") = .ok () := by
  have hglob : isGlob (Bytes.ofString "[a]*[b") = true := by decide +kernel
  have htokens : Glob.tokens? (Bytes.ofString "[a]*[b") = none := by decide +kernel
  refine ⟨?_, by decide +kernel, Generation.validate_settingsWith hglob⟩
  rw [← Glob.isSome_tokens?_iff, htokens]
  decide

end RpcBindings.Settings
