import Mathlib.Data.List.Sort
import RpcBindings.Proofs.Service.Leaves
import RpcBindings.Proofs.Text.Bytes
import RpcBindings.Schema.Basic

/-!
# Services that are referred to and not declared (SPEC §3)

A class may belong to a service that no document of the run declares.  The bindings can be used only
together with those of such services, so a schema lists them: each once, in increasing order, and
those that a reference at any depth of a parameter or a result names.

The list is strictly increasing, so it is determined by what it holds; and that depends on which
services there are, not on the order in which they came.
-/

set_option autoImplicit false

namespace RpcBindings

open RpcBindings.ServiceType (Within)

/-- A class of the service is referred to somewhere in the type of a parameter or of the result. -/
def Procedure.RefersTo (p : Procedure) (service : Bytes) : Prop :=
  ∃ name, (∃ q ∈ p.parameters, Within (.reference service name) q.type) ∨
    Within (.reference service name) p.result

namespace Schema

theorem mem_referred_iff {p : Procedure} {name : Bytes} : name ∈ referred p ↔ p.RefersTo name := by
  simp only [referred, List.mem_append, List.mem_flatMap, ServiceType.mem_services_iff,
    Procedure.RefersTo]
  constructor
  · rintro (⟨q, hq, c, hwithin⟩ | ⟨c, hwithin⟩)
    · exact ⟨c, .inl ⟨q, hq, hwithin⟩⟩
    · exact ⟨c, .inr hwithin⟩
  · rintro ⟨c, ⟨q, hq, hwithin⟩ | hwithin⟩
    · exact .inl ⟨q, hq, c, hwithin⟩
    · exact .inr ⟨c, hwithin⟩

theorem find?_isNone_iff {s : Schema} {name : Bytes} :
    (s.find? name).isNone = true ↔ ∀ service ∈ s.services, service.name ≠ name := by
  simp [find?]

/-! ## Going through the references -/

/-- What holds at any time while references are gone through: those found missing are the ones seen that
are not declared, and each is there once. -/
structure Visit.Sound (s : Schema) (v : Visit) : Prop where
  mem_missing_iff : ∀ name, name ∈ v.missing ↔ name ∈ v.seen ∧ (s.find? name).isNone = true
  nodup : v.missing.Nodup

theorem mem_seen_meet_iff {s : Schema} {v : Visit} {name other : Bytes} :
    other ∈ (s.meet v name).seen ↔ other = name ∨ other ∈ v.seen := by
  unfold meet
  split
  · rename_i hseen
    rw [List.contains_iff_mem] at hseen
    constructor
    · exact .inr
    · rintro (rfl | h)
      · exact hseen
      · exact h
  · exact List.mem_cons

theorem Visit.Sound.meet {s : Schema} {v : Visit} (h : v.Sound s) (name : Bytes) :
    (s.meet v name).Sound s := by
  unfold Schema.meet
  split
  · exact h
  · rename_i hseen
    rw [List.contains_iff_mem] at hseen
    have hnew : name ∉ v.missing := fun hmem => hseen ((h.mem_missing_iff name).mp hmem).1
    split
    · rename_i hnone
      refine ⟨?_, List.nodup_append.mpr ⟨h.nodup, List.nodup_singleton name, ?_⟩⟩
      · intro other
        rw [List.mem_append, List.mem_singleton, List.mem_cons, h.mem_missing_iff]
        constructor
        · rintro (⟨hother, hmissing⟩ | rfl)
          · exact ⟨.inr hother, hmissing⟩
          · exact ⟨.inl rfl, hnone⟩
        · rintro ⟨rfl | hother, hmissing⟩
          · exact .inr rfl
          · exact .inl ⟨hother, hmissing⟩
      · intro other hother last hlast heq
        rw [heq, List.mem_singleton.mp hlast] at hother
        exact hnew hother
    · rename_i hdeclared
      refine ⟨?_, h.nodup⟩
      intro other
      rw [List.mem_cons, h.mem_missing_iff]
      constructor
      · rintro ⟨hother, hmissing⟩
        exact ⟨.inr hother, hmissing⟩
      · rintro ⟨rfl | hother, hmissing⟩
        · exact absurd hmissing hdeclared
        · exact ⟨hother, hmissing⟩

theorem foldl_meet {s : Schema} {v : Visit} (h : v.Sound s) (names : List Bytes) :
    (names.foldl s.meet v).Sound s ∧
      ∀ name, name ∈ (names.foldl s.meet v).seen ↔ name ∈ names ∨ name ∈ v.seen := by
  induction names generalizing v with
  | nil => simpa using h
  | cons first names ih =>
      obtain ⟨hsound, hseen⟩ := ih (h.meet first)
      refine ⟨hsound, ?_⟩
      intro name
      rw [List.foldl_cons, hseen, mem_seen_meet_iff, List.mem_cons, or_left_comm, or_assoc]

/-- Nothing is seen before the first reference. -/
theorem Visit.sound_nil (s : Schema) : Visit.Sound s ⟨[], []⟩ := ⟨by simp, List.nodup_nil⟩

theorem mem_external_iff {s : Schema} {name : Bytes} :
    name ∈ s.external ↔
      (∃ service ∈ s.services, ∃ p ∈ service.procedures, p.RefersTo name) ∧
        ∀ service ∈ s.services, service.name ≠ name := by
  obtain ⟨hsound, hseen⟩ := foldl_meet (Visit.sound_nil s) s.references
  rw [external, Bytes.mem_sort_iff, hsound.mem_missing_iff, hseen, find?_isNone_iff, references]
  simp only [List.mem_flatMap, mem_referred_iff, List.not_mem_nil, or_false]

theorem external_increasing (s : Schema) : s.external.Pairwise (· < ·) :=
  Bytes.sort_increasing (foldl_meet (Visit.sound_nil s) s.references).1.nodup

/-- What is external depends on which services there are and on nothing else. -/
theorem external_eq_of_mem_iff {s t : Schema}
    (h : ∀ service, service ∈ s.services ↔ service ∈ t.services) : s.external = t.external := by
  refine (external_increasing s).eq_of_mem_iff (external_increasing t) ?_
  intro name
  simp only [mem_external_iff, h]

/-! ## Building a schema -/

/-- What can be added to a schema. -/
inductive Addition where
  | document (d : Document)
  | service (service : Service)
  | warning (w : Warning)
  deriving Repr, Inhabited

/-- The schema with something added. -/
def add (s : Schema) : Addition → Schema
  | .document d => s.addDocument d
  | .service service => s.addService service
  | .warning w => s.addWarning w

/-- The services that come with an addition. -/
def Addition.services : Addition → List Service
  | .document d => d.services
  | .service added => [added]
  | .warning _ => []

theorem services_add (s : Schema) (a : Addition) : (s.add a).services = s.services ++ a.services := by
  cases a with
  | document d => rfl
  | service service => rfl
  | warning w => exact (List.append_nil _).symm

theorem services_foldl_add (s : Schema) (additions : List Addition) :
    (additions.foldl add s).services = s.services ++ additions.flatMap Addition.services := by
  induction additions generalizing s with
  | nil => simp
  | cons a rest ih => rw [List.foldl_cons, ih, services_add, List.flatMap_cons, List.append_assoc]

/-- The external services are listed in strictly increasing order, and they are those that some type
refers to at some depth and that no service of the schema is named as.  So they stay the same when
services come in another order, or documents and services are added in another order. -/
theorem external_lists_exactly (s : Schema) :
    s.external.Pairwise (· < ·) ∧
    (∀ name, name ∈ s.external ↔
      (∃ service ∈ s.services, ∃ p ∈ service.procedures, p.RefersTo name) ∧
        ∀ service ∈ s.services, service.name ≠ name) ∧
    (∀ t : Schema, t.services.Perm s.services → t.external = s.external) ∧
    ∀ additions others : List Addition, additions.Perm others →
      (additions.foldl add s).external = (others.foldl add s).external := by
  refine ⟨external_increasing s, fun _ => mem_external_iff, ?_, ?_⟩
  · intro t hperm
    exact external_eq_of_mem_iff fun _ => hperm.mem_iff
  · intro additions others hperm
    apply external_eq_of_mem_iff
    intro service
    rw [services_foldl_add, services_foldl_add, List.mem_append, List.mem_append,
      (hperm.flatMap_right Addition.services).mem_iff]

/-- A service with a class of another one inside a tuple in a list, one of a third service as a
result, and one of its own. -/
def drawing : Service where
  name := "Drawing"
  classes := ["Line"]
  enumerations := []
  procedures := [⟨"AddLine", [⟨"points", .list (.tuple [.void, .reference "UI" "Canvas"])⟩],
    .reference "Drawing" "Line"⟩, ⟨"Clear", [], .reference "SpaceCenter" "Vessel"⟩]
  file := "drawing.json"

/-- A service that refers to a service too. -/
def remote : Service where
  name := "Remote"
  classes := []
  enumerations := []
  procedures := [⟨"Tell", [⟨"to", .reference "UI" "Panel"⟩], .void⟩]
  file := "remote.json"

/-- A document and a service, added one way and the other. -/
theorem external_lists_exactly_either_way :
    let document : Addition := .document ⟨"drawing.json", [drawing], []⟩
    let schema : Schema := ⟨[], [drawing, remote], []⟩
    [document, .service remote].Perm [.service remote, document] ∧
      ([document, .service remote].foldl add empty).external =
        ([.service remote, document].foldl add empty).external ∧
      [remote, drawing].Perm [drawing, remote] ∧
      (Schema.mk [] [remote, drawing] []).external = schema.external ∧
      Bytes.ofString "UI" ∈ schema.external ∧ Bytes.ofString "Drawing" ∉ schema.external := by
  intro document schema
  obtain ⟨-, -, -, hadditions⟩ := external_lists_exactly empty
  obtain ⟨-, hmem, hservices, -⟩ := external_lists_exactly schema
  have hperm : [document, .service remote].Perm [.service remote, document] := .swap _ _ _
  have hperm' : [remote, drawing].Perm [drawing, remote] := .swap _ _ _
  have hcanvas : Within (.reference "UI" "Canvas")
      (.list (.tuple [.void, .reference "UI" "Canvas"])) := .item (.element (by simp) .self)
  refine ⟨hperm, hadditions _ _ hperm, hperm', hservices _ hperm', (hmem _).mpr ⟨?_, ?_⟩, ?_⟩
  · exact ⟨drawing, by simp [schema], _, List.mem_cons_self, _, .inl ⟨_, List.mem_cons_self, hcanvas⟩⟩
  · intro service hservice
    obtain rfl | rfl : service = drawing ∨ service = remote := by simpa [schema] using hservice
    · decide
    · decide
  · intro hdrawing
    exact ((hmem _).mp hdrawing).2 drawing (by simp [schema]) rfl

end Schema

end RpcBindings
