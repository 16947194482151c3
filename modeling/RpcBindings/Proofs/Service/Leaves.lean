import Mathlib.Data.List.Basic
import RpcBindings.Service.Basic

/-!
# The leaves of types (SPEC §3)

Tuples and lists are built from other types, and what they are built from in the end are their
leaves: primitives, references, codes about which nothing is known, and missing types.  A leaf can
stand at any depth.
-/

set_option autoImplicit false

namespace RpcBindings.ServiceType

mutual

/-- The leaves of a type, from left to right. -/
def leaves : ServiceType → List ServiceType
  | .tuple elements => leavesAll elements
  | .list element => leaves element
  | leaf => [leaf]

/-- The leaves of some types, from left to right. -/
def leavesAll : List ServiceType → List ServiceType
  | [] => []
  | t :: ts => leaves t ++ leavesAll ts

end

/-- The first type is the second or stands in it, at any depth. -/
inductive Within (t : ServiceType) : ServiceType → Prop where
  | self : Within t t
  | element {elements : List ServiceType} {e : ServiceType} :
      e ∈ elements → Within t e → Within t (.tuple elements)
  | item {element : ServiceType} : Within t element → Within t (.list element)

theorem leavesAll_eq_flatMap (ts : List ServiceType) : leavesAll ts = ts.flatMap leaves := by
  induction ts with
  | nil => rfl
  | cons t ts ih => rw [leavesAll, ih, List.flatMap_cons]

mutual

theorem within_of_mem_leaves {leaf : ServiceType} :
    ∀ {t : ServiceType}, leaf ∈ t.leaves → Within leaf t
  | .void, h => List.mem_singleton.mp h ▸ .self
  | .primitive _, h => List.mem_singleton.mp h ▸ .self
  | .unknown _, h => List.mem_singleton.mp h ▸ .self
  | .reference _ _, h => List.mem_singleton.mp h ▸ .self
  | .tuple _, h =>
      have ⟨_, hmem, hwithin⟩ := within_of_mem_leavesAll h
      .element hmem hwithin
  | .list _, h => .item (within_of_mem_leaves h)

theorem within_of_mem_leavesAll {leaf : ServiceType} :
    ∀ {ts : List ServiceType}, leaf ∈ leavesAll ts → ∃ t ∈ ts, Within leaf t
  | [], h => by simp [leavesAll] at h
  | _ :: _, h => by
      rw [leavesAll, List.mem_append] at h
      obtain h | h := h
      · exact ⟨_, by simp, within_of_mem_leaves h⟩
      · obtain ⟨t, hmem, hwithin⟩ := within_of_mem_leavesAll h
        exact ⟨t, by simp [hmem], hwithin⟩

end

/-- What is not built from other types is a leaf of every type it stands in. -/
theorem mem_leaves_iff {leaf t : ServiceType} (hleaf : leaf.leaves = [leaf]) :
    leaf ∈ t.leaves ↔ Within leaf t := by
  constructor
  · exact within_of_mem_leaves
  · intro h
    induction h with
    | self => simp [hleaf]
    | element hmem _ ih =>
        rw [leaves, leavesAll_eq_flatMap]
        exact List.mem_flatMap.mpr ⟨_, hmem, ih⟩
    | item _ ih =>
        rw [leaves]
        exact ih

/-! ## Unknown codes -/

/-- The code of a leaf about which nothing is known. -/
def unknownCode? : ServiceType → Option Bytes
  | .unknown code => some code
  | _ => none

/-- The codes in a type about which nothing is known, from left to right. -/
def unknownCodes (t : ServiceType) : List Bytes := t.leaves.filterMap unknownCode?

theorem unknownCodes_tuple (elements : List ServiceType) :
    unknownCodes (.tuple elements) = elements.flatMap unknownCodes := by
  rw [unknownCodes, leaves, leavesAll_eq_flatMap, List.filterMap_flatMap]
  rfl

theorem unknownCodes_list (element : ServiceType) :
    unknownCodes (.list element) = unknownCodes element := by
  rw [unknownCodes, leaves, unknownCodes]

theorem mem_unknownCodes_iff {code : Bytes} {t : ServiceType} :
    code ∈ t.unknownCodes ↔ Within (.unknown code) t := by
  rw [← mem_leaves_iff rfl, unknownCodes, List.mem_filterMap]
  constructor
  · rintro ⟨leaf, hleaf, hcode⟩
    cases leaf <;> cases hcode
    exact hleaf
  · intro h
    exact ⟨_, h, rfl⟩

/-! ## References -/

/-- The service that a leaf refers to. -/
def referredService? : ServiceType → Option Bytes
  | .reference service _ => some service
  | _ => none

mutual

theorem services_eq_filterMap_leaves :
    ∀ t : ServiceType, t.services = t.leaves.filterMap referredService?
  | .void => rfl
  | .primitive _ => rfl
  | .unknown _ => rfl
  | .reference _ _ => rfl
  | .tuple elements => servicesAll_eq_filterMap_leaves elements
  | .list element => services_eq_filterMap_leaves element

theorem servicesAll_eq_filterMap_leaves :
    ∀ ts : List ServiceType, servicesAll ts = (leavesAll ts).filterMap referredService?
  | [] => rfl
  | t :: ts => by
      rw [servicesAll, leavesAll, List.filterMap_append, services_eq_filterMap_leaves t,
        servicesAll_eq_filterMap_leaves ts]

end

theorem mem_services_iff {service : Bytes} {t : ServiceType} :
    service ∈ t.services ↔ ∃ name, Within (.reference service name) t := by
  rw [services_eq_filterMap_leaves, List.mem_filterMap]
  constructor
  · rintro ⟨leaf, hleaf, hservice⟩
    cases leaf <;> cases hservice
    exact ⟨_, within_of_mem_leaves hleaf⟩
  · rintro ⟨name, hwithin⟩
    exact ⟨_, (mem_leaves_iff rfl).mpr hwithin, rfl⟩

end RpcBindings.ServiceType
