import Mathlib.Data.List.Nodup
import RpcBindings.Binding.Module
import RpcBindings.Proofs.Name.RoundTrip
import RpcBindings.Proofs.Name.Taken

/-!
# Method names rarely collide (SPEC §4.3)

Procedures with different ASCII names get methods with different names, so a service that has no two
procedures of one name can be warned about one thing only: a procedure whose method would be named as
the function that makes the structure.

A name that is taken has the procedure as its owner that took it.  The function that makes the structure
is the one owner that is no procedure, and the empty name could stand for it as well.
-/

set_option autoImplicit false

namespace RpcBindings.Binding

open RpcBindings.Name (Bindable memberIdent)
open RpcBindings.Taken (reportsFrom)

/-! ## Going through the procedures -/

/-- The name of the method for a procedure. -/
def methodName (p : Procedure) : Bytes := memberIdent p.name

/-- Going through the bound procedures is the loop over names that are taken. -/
theorem collisionsFrom_eq_reportsFrom (s : Service) (taken : List (Bytes × Option Bytes))
    (ps : List Procedure) :
    collisionsFrom s taken ps =
      reportsFrom methodName (fun p => some p.name)
        (fun p owner => collision s p.name (methodName p) owner) taken ps := by
  induction ps generalizing taken with
  | nil => rfl
  | cons p rest ih =>
      cases h : taken.lookup (methodName p) with
      | some owner =>
          rw [Taken.reportsFrom_cons_of_held h, ← ih]
          rw [methodName] at h
          simp only [collisionsFrom, h, methodName]
      | none =>
          rw [Taken.reportsFrom_cons_of_free h, ← ih]
          rw [methodName] at h
          simp only [collisionsFrom, h, methodName]

theorem lookup_constructor (name : Bytes) :
    [(constructorName, (none : Option Bytes))].lookup name =
      if name = constructorName then some none else none := by
  rw [Association.lookup_cons_eq, List.lookup_nil]
  simp only [beq_iff_eq]

theorem name_ne_nil_of_mem_bound {s : Service} {p : Procedure} (h : p ∈ bound s) : p.name ≠ [] := by
  intro hnil
  have hstyle := (List.mem_filter.mp h).2
  rw [hnil] at hstyle
  exact absurd hstyle (by decide)

/-- The owner that a text stands for: the empty text stands for none. -/
def ownerOf (text : Bytes) : Option Bytes := if text = [] then none else some text

/-- The owners can be kept as texts, the empty one for the function that makes the structure: no
procedure that gets a method has an empty name. -/
theorem collisions_eq_reportsFrom_texts (s : Service) :
    collisions s =
      reportsFrom methodName Procedure.name
        (fun p text => collision s p.name (methodName p) (ownerOf text)) [(constructorName, [])]
        (bound s) := by
  have hkept : ∀ p ∈ bound s, ownerOf p.name = some p.name := fun p hp =>
    if_neg (name_ne_nil_of_mem_bound hp)
  rw [collisions, collisionsFrom_eq_reportsFrom, Taken.reportsFrom_kept ownerOf hkept]
  rfl

/-! ## Different names -/

/-- The name of the procedure whose method is named as the function that makes the structure. -/
def constructorProcedure : Bytes := "New"

theorem bindable_constructorProcedure : Bindable constructorProcedure := ⟨by decide, by decide⟩

theorem memberIdent_constructorProcedure : memberIdent constructorProcedure = constructorName := by
  decide

theorem filter_eq_of_nodup {names : List Bytes} (h : names.Nodup) (a : Bytes) :
    names.filter (· = a) = if a ∈ names then [a] else [] := by
  rw [List.filter_eq]
  split_ifs with ha
  · rw [List.count_eq_one_of_mem h ha]
    rfl
  · rw [List.count_eq_zero_of_not_mem ha]
    rfl

theorem mem_bound_names {s : Service} {name : Bytes} (h : Name.isTypeStyle name = true) :
    name ∈ (bound s).map Procedure.name ↔ name ∈ s.procedures.map Procedure.name := by
  simp only [bound, List.mem_map, List.mem_filter]
  constructor
  · rintro ⟨p, ⟨hp, _⟩, rfl⟩
    exact ⟨p, hp, rfl⟩
  · rintro ⟨p, hp, rfl⟩
    exact ⟨p, ⟨hp, h⟩, rfl⟩

section

variable {s : Service} (hascii : ∀ p ∈ s.procedures, Name.Ascii.isAscii p.name = true)
  (hnodup : (s.procedures.map Procedure.name).Nodup)

include hascii

theorem bindable_of_mem_bound {p : Procedure} (hp : p ∈ bound s) : Bindable p.name := by
  obtain ⟨hmem, hstyle⟩ := List.mem_filter.mp hp
  exact ⟨hascii p hmem, hstyle⟩

include hnodup

theorem nodup_methodName : ((bound s).map methodName).Nodup := by
  have hbound : ((bound s).map Procedure.name).Nodup :=
    hnodup.sublist (List.filter_sublist.map _)
  have hmap : (bound s).map methodName = ((bound s).map Procedure.name).map memberIdent := by
    rw [List.map_map]
    rfl
  rw [hmap, List.nodup_map_iff_inj_on hbound, List.forall_mem_map]
  intro p hp
  rw [List.forall_mem_map]
  intro q hq h
  exact (bindable_of_mem_bound hascii hp).memberIdent_injective (bindable_of_mem_bound hascii hq) h

theorem collisions_eq :
    collisions s =
      if constructorProcedure ∈ s.procedures.map Procedure.name then
        [collision s constructorProcedure constructorName none]
      else [] := by
  have hbound : ((bound s).map Procedure.name).Nodup :=
    hnodup.sublist (List.filter_sublist.map _)
  have hreport : ∀ p ∈ bound s,
      ([(constructorName, (none : Option Bytes))].lookup (methodName p)).map
          (collision s p.name (methodName p)) =
        (Option.guard (· = constructorProcedure) p.name).map fun name =>
          collision s name constructorName none := by
    intro p hp
    have hident : methodName p = constructorName ↔ p.name = constructorProcedure := by
      rw [← memberIdent_constructorProcedure]
      constructor
      · exact (bindable_of_mem_bound hascii hp).memberIdent_injective bindable_constructorProcedure
      · intro h
        rw [methodName, h]
    rw [lookup_constructor, Option.guard]
    by_cases h : p.name = constructorProcedure
    · simp [h, hident.mpr h]
    · simp [h, hident]
  have hfilter : (bound s).filterMap (fun p =>
        (Option.guard (· = constructorProcedure) p.name).map fun name =>
          collision s name constructorName none) =
      (((bound s).map Procedure.name).filter (· = constructorProcedure)).map fun name =>
        collision s name constructorName none := by
    rw [← List.filterMap_eq_filter, List.map_filterMap, List.filterMap_map]
    rfl
  rw [collisions, collisionsFrom_eq_reportsFrom, Taken.reportsFrom_of_nodup
    (nodup_methodName hascii hnodup), List.filterMap_congr hreport, hfilter, filter_eq_of_nodup hbound]
  simp only [mem_bound_names bindable_constructorProcedure.typeStyle]
  split_ifs <;> rfl

end

/-- The name of a method determines the procedure it is for.  Type style undoes member style on ASCII
names in type style, identifiers keep such names apart, and so the one warning about method names that
a service with different ASCII names can get is that of the procedure `New`. -/
theorem method_name_determines_procedure :
    (∀ p, Bindable p → Name.typeStyle (Name.memberStyle p) = p) ∧
    (∀ p q, Bindable p → Bindable q → memberIdent p = memberIdent q → p = q) ∧
    ∀ s : Service, (∀ p ∈ s.procedures, Name.Ascii.isAscii p.name = true) →
      (s.procedures.map Procedure.name).Nodup →
      collisions s =
        if constructorProcedure ∈ s.procedures.map Procedure.name then
          [collision s constructorProcedure constructorName none]
        else [] := by
  refine ⟨?_, ?_, ?_⟩
  · intro p hp
    exact hp.styled.typeStyle_memberStyle
  · intro p q hp hq h
    exact hp.memberIdent_injective hq h
  · intro s hascii hnodup
    exact collisions_eq hascii hnodup

/-- A name with a digit between words of one letter, two names that are keywords once lowered, and a
service whose second procedure is named as the constructor. -/
theorem method_name_determines_procedure_new :
    Name.typeStyle (Name.memberStyle "GetX2Of") = Bytes.ofString "GetX2Of" ∧
    memberIdent "Self" ≠ memberIdent "Super" ∧
    (collisions ⟨"S", [], [], [⟨"Self", [], .void⟩, ⟨"New", [], .void⟩, ⟨"get_New", [], .void⟩],
      []⟩).map Warning.message = [Bytes.ofString
        "procedure \"New\" maps to method \"new\", which clashes with the constructor"] := by
  obtain ⟨hstyle, hinjective, hcollisions⟩ := method_name_determines_procedure
  refine ⟨hstyle _ ⟨by decide, by decide⟩, ?_, ?_⟩
  · intro h
    have hsame := hinjective _ _ ⟨by decide, by decide⟩ ⟨by decide, by decide⟩ h
    revert hsame
    decide
  · rw [hcollisions _ (List.all_eq_true.mp (by decide)) (by decide)]
    decide

end RpcBindings.Binding
