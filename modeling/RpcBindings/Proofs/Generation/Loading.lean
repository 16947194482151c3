import RpcBindings.Generation.Load
import RpcBindings.Proofs.Document.Conformance

/-!
# What loading needs (SPEC §4.4)

A schema is loaded exactly when every file of the directory can be read and holds a document, and the
run passes one check for each of them.  It is then the documents of the files, added one after another
in the order of the files.
-/

set_option autoImplicit false

namespace RpcBindings

/-! ## Checks in a row -/

/-- So many checks in a row pass and leave this allowance. -/
inductive Allowance.Passes : Nat → Allowance → Allowance → Prop where
  | none {a : Allowance} : Passes 0 a a
  | check {n : Nat} {a b c : Allowance} (first : a.check = .ok b) (rest : Passes n b c) :
      Passes (n + 1) a c

namespace Allowance

theorem passes_zero_iff {a b : Allowance} : Passes 0 a b ↔ b = a := by
  constructor
  · rintro ⟨⟩
    rfl
  · rintro rfl
    exact .none

theorem passes_succ_iff {n : Nat} {a c : Allowance} :
    Passes (n + 1) a c ↔ ∃ b, a.check = .ok b ∧ Passes n b c := by
  constructor
  · rintro (_ | ⟨first, rest⟩)
    exact ⟨_, first, rest⟩
  · rintro ⟨b, first, rest⟩
    exact .check first rest

/-- The last of several checks can be split off as well as the first. -/
theorem passes_succ_iff_last {n : Nat} {a c : Allowance} :
    Passes (n + 1) a c ↔ ∃ b, Passes n a b ∧ b.check = .ok c := by
  induction n generalizing a with
  | zero => simp [passes_succ_iff, passes_zero_iff]
  | succ n ih =>
      rw [passes_succ_iff]
      simp only [ih]
      constructor
      · rintro ⟨b, first, e, rest, last⟩
        exact ⟨e, .check first rest, last⟩
      · rintro ⟨e, hpasses, last⟩
        obtain ⟨b, first, rest⟩ := passes_succ_iff.mp hpasses
        exact ⟨b, first, e, rest, last⟩

/-- A limited allowance passes as many checks as it says. -/
theorem passes_checks_iff {k n : Nat} {why : Interrupt} {left : Allowance} :
    Passes k (.checks n why) left ↔ k ≤ n ∧ left = .checks (n - k) why := by
  induction k generalizing n with
  | zero => simp [passes_zero_iff]
  | succ k ih =>
      rw [passes_succ_iff]
      cases n with
      | zero => simp [check]
      | succ n => simp [check, ih]

theorem passes_unlimited_iff {n : Nat} {left : Allowance} :
    Passes n .unlimited left ↔ left = .unlimited := by
  induction n with
  | zero => exact passes_zero_iff
  | succ n ih => simp [passes_succ_iff, check, ih]

end Allowance

/-- The schema that documents make up, added in their order. -/
def Schema.ofDocuments (documents : List Document) : Schema :=
  documents.foldl Schema.addDocument Schema.empty

/-- The schema of documents has the parts of all of them, one after another. -/
theorem Schema.foldl_addDocument (schema : Schema) (documents : List Document) :
    documents.foldl Schema.addDocument schema =
      ⟨schema.documents ++ documents.map Document.file,
        schema.services ++ documents.flatMap Document.services,
        schema.warnings ++ documents.flatMap Document.warnings⟩ := by
  induction documents generalizing schema with
  | nil => simp
  | cons document documents ih => simp [ih, Schema.addDocument]

namespace Generation

open RpcBindings.File (Disk)
open RpcBindings.Document (Conforms Describes)

/-! ## Files and their documents -/

/-- The file can be read, and its bytes describe the document. -/
def HoldsDocument (d : Disk) (file : Bytes) (document : Document) : Prop :=
  ∃ data, d.read file = .ok data ∧ Describes file data document

theorem exists_holdsDocument_iff {d : Disk} {file : Bytes} :
    (∃ document, HoldsDocument d file document) ↔
      ∃ data, d.read file = .ok data ∧ Conforms data := by
  unfold HoldsDocument
  rw [exists_comm]
  simp only [exists_and_left, Document.exists_describes_iff]

theorem exists_forall₂_holdsDocument_iff {d : Disk} {files : List Bytes} :
    (∃ documents, List.Forall₂ (HoldsDocument d) files documents) ↔
      ∀ file ∈ files, ∃ data, d.read file = .ok data ∧ Conforms data :=
  Document.exists_forall₂_iff fun _ => exists_holdsDocument_iff

/-- What one file does to a load: it has to hold a document, and it costs a check. -/
theorem addFiles_cons_eq_ok_iff {d : Disk} {allowance left : Allowance} {schema result : Schema}
    {file : Bytes} {files : List Bytes} :
    addFiles d allowance schema (file :: files) = (.ok result, left) ↔
      ∃ document next, HoldsDocument d file document ∧ allowance.check = .ok next ∧
        addFiles d next (schema.addDocument document) files = (.ok result, left) := by
  rw [addFiles]
  constructor
  · intro h
    cases hdata : d.read file with
    | error fault => simp [hdata] at h
    | ok data =>
        rcases hread : readDocument allowance file data with ⟨f | document, next⟩
        · simp [hdata, hread] at h
        · obtain ⟨hcheck, hdescribes⟩ := readDocument_eq_ok_iff.mp hread
          simp only [hdata, hread] at h
          exact ⟨document, next, ⟨data, hdata, hdescribes⟩, hcheck, h⟩
  · rintro ⟨document, next, ⟨data, hdata, hdescribes⟩, hcheck, h⟩
    simp only [hdata, readDocument_eq_ok_iff.mpr ⟨hcheck, hdescribes⟩]
    exact h

theorem addFiles_eq_ok_iff {d : Disk} {allowance left : Allowance} {schema result : Schema}
    {files : List Bytes} :
    addFiles d allowance schema files = (.ok result, left) ↔
      ∃ documents, List.Forall₂ (HoldsDocument d) files documents ∧
        allowance.Passes files.length left ∧
        result = documents.foldl Schema.addDocument schema := by
  induction files generalizing allowance schema with
  | nil => simp [addFiles, Allowance.passes_zero_iff, eq_comm, and_comm]
  | cons file files ih =>
      simp only [addFiles_cons_eq_ok_iff, ih, List.length_cons, Allowance.passes_succ_iff]
      constructor
      · rintro ⟨document, next, hholds, hcheck, documents, hrest, hpasses, rfl⟩
        exact ⟨document :: documents, .cons hholds hrest, ⟨next, hcheck, hpasses⟩, rfl⟩
      · rintro ⟨_, hholds | ⟨hholds, hrest⟩, ⟨next, hcheck, hpasses⟩, rfl⟩
        exact ⟨_, next, hholds, hcheck, _, hrest, hpasses, rfl⟩

theorem load_eq_ok_iff {d : Disk} {allowance left : Allowance} {dir pattern : Bytes}
    {schema : Schema} :
    load d allowance dir pattern = (.ok schema, left) ↔
      ∃ files documents, schemaFiles d dir pattern = .ok files ∧
        List.Forall₂ (HoldsDocument d) files documents ∧
        allowance.Passes files.length left ∧ schema = Schema.ofDocuments documents := by
  unfold load
  cases schemaFiles d dir pattern with
  | error f => simp
  | ok files =>
      simp only [addFiles_eq_ok_iff, Except.ok.injEq, exists_and_left, exists_eq_left']
      rfl

end Generation

end RpcBindings
