import Mathlib.Data.List.Nodup
import RpcBindings.Binding.Render
import RpcBindings.Proofs.Name.RoundTrip
import RpcBindings.Proofs.Schema.Duplicates

/-!
# Names of modules (SPEC §4.3)

A schema is warned about when two of its services have one name, as the names are spelled in it.  The
modules of the bindings are named after the identifiers of the services, though, and different names
can have one identifier.  So where there are no warnings, the modules have different names exactly if
no two names of services come to one identifier.  This is so for ASCII names in type style; it is not
so in general.
-/

set_option autoImplicit false

namespace RpcBindings

/-! ## Modules -/

namespace Code

/-- The name of a module. -/
def Item.moduleName? : Item → Option Bytes
  | .module _ name _ _ => some name
  | _ => none

/-- The names of the modules that items declare, as often as they do. -/
def moduleNames (items : List Item) : List Bytes := items.filterMap Item.moduleName?

end Code

namespace Binding

open RpcBindings.Code (Item moduleNames)
open RpcBindings.Name (Bindable memberIdent)

theorem moduleNames_items (setup : Setup) (s : Schema) :
    moduleNames (items setup s) = s.services.map fun service => memberIdent service.name := by
  have hfront : moduleNames (if setup.frontmatter = [] then [] else [.raw setup.frontmatter]) = [] := by
    split_ifs <;> rfl
  have hmodules : moduleNames (s.services.map (module setup)) =
      s.services.map fun service => memberIdent service.name := by
    rw [moduleNames, List.filterMap_map, ← List.filterMap_eq_map]
    rfl
  rw [← hmodules, items, moduleNames, List.filterMap_append]
  exact (congrArg (· ++ _) hfront).trans (List.nil_append _)

theorem duplicates_of_no_warnings {s : Schema} (h : (tally s).warnings = []) :
    s.duplicates = [] := by
  simp only [tally, List.append_eq_nil_iff] at h
  exact h.1.2

/-- Without warnings the names of the services are different, and the names of their modules are so
exactly if different names have different identifiers.  ASCII names in type style do. -/
theorem moduleNames_nodup_iff_of_no_warnings (setup : Setup) (s : Schema)
    (h : (tally s).warnings = []) :
    (s.services.map Service.name).Nodup ∧
    ((moduleNames (items setup s)).Nodup ↔
      ∀ a ∈ s.services, ∀ b ∈ s.services,
        memberIdent a.name = memberIdent b.name → a.name = b.name) ∧
    ((∀ service ∈ s.services, Bindable service.name) → (moduleNames (items setup s)).Nodup) := by
  have hnames : (s.services.map Service.name).Nodup :=
    Schema.duplicates_eq_nil_iff.mp (duplicates_of_no_warnings h)
  have hmodules : (moduleNames (items setup s)).Nodup ↔
      ∀ a ∈ s.services, ∀ b ∈ s.services,
        memberIdent a.name = memberIdent b.name → a.name = b.name := by
    have hmap : moduleNames (items setup s) = (s.services.map Service.name).map memberIdent := by
      rw [moduleNames_items, List.map_map]
      rfl
    rw [hmap, List.nodup_map_iff_inj_on hnames]
    simp only [List.forall_mem_map]
  refine ⟨hnames, hmodules, ?_⟩
  intro hbindable
  refine hmodules.mpr ?_
  intro a ha b hb hident
  exact (hbindable a ha).memberIdent_injective (hbindable b hb) hident

/-- Two services with ASCII names in type style, the one of which lowers to a keyword. -/
def twoServices : Schema :=
  ⟨["a.json", "b.json"], [⟨"Type", [], [], [], "a.json"⟩, ⟨"SpaceCenter", [], [], [], "b.json"⟩], []⟩

theorem moduleNames_nodup_of_two_services :
    (tally twoServices).warnings = [] ∧
      (moduleNames (items Setup.default twoServices)).Nodup := by
  have hwarnings : (tally twoServices).warnings = [] := by decide
  obtain ⟨-, -, hdistinct⟩ :=
    moduleNames_nodup_iff_of_no_warnings Setup.default twoServices hwarnings
  refine ⟨hwarnings, hdistinct ?_⟩
  refine List.forall_mem_cons.mpr ⟨⟨by decide, by decide⟩, ?_⟩
  exact List.forall_mem_singleton.mpr ⟨by decide, by decide⟩

/-- Two services whose names differ in a capital only. -/
def capitalServices : Schema :=
  ⟨["a.json", "b.json"], [⟨"Drawing", [], [], [], "a.json"⟩, ⟨"drawing", [], [], [], "b.json"⟩], []⟩

/-- They are not warned about, and their bindings declare one module twice. -/
theorem module_declared_twice_without_warnings :
    (tally capitalServices).warnings = [] ∧
      moduleNames (items Setup.default capitalServices) =
        [Bytes.ofString "drawing", Bytes.ofString "drawing"] ∧
      ¬ (moduleNames (items Setup.default capitalServices)).Nodup := by
  have hnames : moduleNames (items Setup.default capitalServices) =
      [Bytes.ofString "drawing", Bytes.ofString "drawing"] := by
    rw [moduleNames_items]
    decide
  refine ⟨by decide, hnames, ?_⟩
  rw [hnames]
  decide

end Binding

end RpcBindings
