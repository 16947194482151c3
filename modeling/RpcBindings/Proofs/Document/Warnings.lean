import Mathlib.Data.List.Forall2
import Mathlib.Data.List.Infix
import RpcBindings.Proofs.Document.Conformance
import RpcBindings.Proofs.Service.Leaves

/-!
# Warnings account for the document (SPEC §4.2, §14)

Which warnings come with a document can be said from both of its sides: from the JSON value that it
is read from, and from what it is read as.

The type objects of a value are listed in the order in which they are read, each before the objects
that it is built from (`typeObjects`).  A tuple is built from all of its entries and a list from its
first alone, so what stands behind the first is not listed.  One list of type objects explains
both sides (`Accounts`): the warnings are those that its objects give rise to, one after another,
and the unknown codes of the document are the unknown codes of its objects.
-/

set_option autoImplicit false

namespace RpcBindings.Json

/-! ## Looking into values -/

/-- The members of an object; other values have none. -/
def members : Json → Members
  | .object members => members
  | _ => []

/-- The items of an array; other values have none. -/
def items : Json → List Json
  | .array items => items
  | _ => []

/-- The value of the first member with the key, and `null` without one. -/
def field (key : Bytes) (v : Json) : Json := (member? key v.members).getD .null

end RpcBindings.Json

namespace RpcBindings

/-! ## Unknown codes of documents -/

/-- The types that a procedure names: those of its parameters, then that of its result. -/
def Procedure.types (p : Procedure) : List ServiceType :=
  p.parameters.map Parameter.type ++ [p.result]

/-- The unknown codes in a procedure of a service, each with the service. -/
def Procedure.unknownLeaves (service : Bytes) (p : Procedure) : List (Bytes × Bytes) :=
  p.types.flatMap fun t => t.unknownCodes.map fun code => (service, code)

/-- The unknown codes in a service, each with the name of the service. -/
def Service.unknownLeaves (s : Service) : List (Bytes × Bytes) :=
  s.procedures.flatMap (Procedure.unknownLeaves s.name)

/-- The unknown codes in a document, each with the name of its service. -/
def Document.unknownLeaves (d : Document) : List (Bytes × Bytes) :=
  d.services.flatMap Service.unknownLeaves

end RpcBindings

namespace RpcBindings.Document

open RpcBindings.Json (Members)

theorem First.field_eq {members : Members} {key : Bytes} {v : Json} (h : First members key v) :
    (Json.object members).field key = v := by
  rw [Json.field, Json.members, member?_eq_some_iff.mpr h, Option.getD_some]

theorem Lacks.field_eq {members : Members} {key : Bytes} (h : Lacks members key) :
    (Json.object members).field key = .null := by
  rw [Json.field, Json.members, member?_eq_none_iff.mpr h, Option.getD_none]

/-! ## Type objects -/

/-- An object that is read as a type, with the service it belongs to and its place. -/
structure TypeObject where
  service : Bytes
  place : Place
  members : Members

namespace TypeObject

/-- The code of the type. -/
def code? (o : TypeObject) : Option Bytes :=
  match (Json.object o.members).field "code" with
  | .string code => some code
  | _ => none

/-- The element types that the object has, whether they are read or not. -/
def entries (o : TypeObject) : List Json := ((Json.object o.members).field "types").items

/-- What the type is built from, with its places: all entries of a tuple, the first of a list. -/
def parts (o : TypeObject) : List (Place × Json) :=
  let placed := o.entries.zipIdx.map fun e => (o.place.item "types" e.2, e.1)
  if o.code? = some ServiceType.tupleCode then placed
  else if o.code? = some ServiceType.listCode then placed.take 1
  else []

/-- A list with more than one element type. -/
def hasSurplus (o : TypeObject) : Bool :=
  o.code? = some ServiceType.listCode ∧ 1 < o.entries.length

/-- The code of the type, if it stands for no known type. -/
def unknown? (o : TypeObject) : Option Bytes :=
  o.code?.filter fun code =>
    code ∉ [ServiceType.tupleCode, ServiceType.listCode, ServiceType.classCode] ∧
      Primitive.ofCode? code = none

/-- The warning about more than one element type. -/
def surplusWarning (file : Bytes) (o : TypeObject) : Warning :=
  extraTypes file o.service o.place o.entries.length

/-- The warnings that are about this object and not about a part of it. -/
def warnings (file : Bytes) (o : TypeObject) : List Warning :=
  (if o.hasSurplus then [o.surplusWarning file] else []) ++
    (o.unknown?.map fun code => unknownCode file o.service code o.place).toList

/-- The code of the type with the service, if it stands for no known type. -/
def leaf? (o : TypeObject) : Option (Bytes × Bytes) := o.unknown?.map fun code => (o.service, code)

theorem sizeOf_lt_of_mem_parts {o : TypeObject} {p : Place × Json} (h : p ∈ o.parts) :
    sizeOf p.2 < sizeOf o.members := by
  have hentry : p.2 ∈ o.entries := by
    have hplaced : ∀ q ∈ o.entries.zipIdx.map fun e => (o.place.item "types" e.2, e.1),
        q.2 ∈ o.entries := by
      rintro q hq
      obtain ⟨e, he, rfl⟩ := List.mem_map.mp hq
      exact List.fst_mem_of_mem_zipIdx he
    unfold parts at h
    split at h
    · exact hplaced p h
    · split at h
      · exact hplaced p (List.mem_of_mem_take h)
      · simp at h
  unfold entries Json.field at hentry
  cases htypes : Json.member? "types" o.members with
  | none => simp [Json.members, htypes, Json.items] at hentry
  | some v =>
      have hv := Json.sizeOf_lt_of_member? htypes
      cases v with
      | array items =>
          have hitem := List.sizeOf_lt_of_mem (by
            simpa [Json.members, htypes, Json.items] using hentry : p.2 ∈ items)
          simp only [Json.array.sizeOf_spec] at hv
          omega
      | _ => simp [Json.members, htypes, Json.items] at hentry

section

variable {service code : Bytes} {place : Place} {members : Members} {items : List Json}

theorem code?_eq (h : First members "code" (.string code)) :
    code? ⟨service, place, members⟩ = some code := by
  rw [code?, h.field_eq]

theorem entries_eq (h : First members "types" (.array items)) :
    entries ⟨service, place, members⟩ = items := by
  rw [entries, h.field_eq, Json.items]

/-- The code builds a type or is the code of a primitive. -/
def Known (code : Bytes) : Prop :=
  code ∈ [ServiceType.tupleCode, ServiceType.listCode, ServiceType.classCode] ∨
    ∃ p : Primitive, code = p.code

theorem unknown?_eq_none {o : TypeObject} (h : o.code? = some code) (hknown : Known code) :
    o.unknown? = none := by
  rw [unknown?, h, Option.filter_eq_none_iff]
  rintro _ ⟨⟩
  obtain hbuilds | ⟨p, hp⟩ := hknown
  · simp [hbuilds]
  · simp [ofCode?_eq_some_iff.mpr hp]

theorem unknown?_eq_some {o : TypeObject} (h : o.code? = some code)
    (htuple : code ≠ ServiceType.tupleCode) (hlist : code ≠ ServiceType.listCode)
    (hclass : code ≠ ServiceType.classCode) (hprimitive : ∀ p : Primitive, code ≠ p.code) :
    o.unknown? = some code := by
  simp [unknown?, h, Option.filter, htuple, hlist, hclass,
    ofCode?_eq_none_iff.mpr hprimitive]

end

end TypeObject

/-- The type objects in a value at a place that is read as a type, each before its parts. -/
def typeObjects (service : Bytes) (place : Place) : Json → List TypeObject
  | .object members =>
      let o : TypeObject := ⟨service, place, members⟩
      o :: o.parts.attach.flatMap fun (p : { p // p ∈ o.parts }) =>
        have : sizeOf p.1.2 < sizeOf members := TypeObject.sizeOf_lt_of_mem_parts p.2
        typeObjects service p.1.1 p.1.2
  | _ => []
termination_by v => sizeOf v

theorem typeObjects_object (service : Bytes) (place : Place) (members : Members) :
    typeObjects service place (.object members) =
      ⟨service, place, members⟩ ::
        (TypeObject.parts ⟨service, place, members⟩).flatMap fun p =>
          typeObjects service p.1 p.2 := by
  rw [typeObjects]
  conv_rhs => rw [← List.attach_map_subtype_val (TypeObject.parts _), List.flatMap_map]

theorem typeObjects_null (service : Bytes) (place : Place) :
    typeObjects service place .null = [] := by
  rw [typeObjects]
  simp

/-- The type objects of a member that is read as a procedure: those of the parameters, then those
of the result. -/
def procedureObjects (service : Bytes) (m : Bytes × Json) : List TypeObject :=
  let place : Place := [service, "procedures", m.1]
  ((m.2.field "parameters").items.zipIdx.flatMap fun e =>
    typeObjects service ((place.item "parameters" e.2).sub "type") (e.1.field "type")) ++
  typeObjects service (place.sub "return_type") (m.2.field "return_type")

/-- The type objects of a member that is read as a service. -/
def serviceObjects (m : Bytes × Json) : List TypeObject :=
  (Json.sortedMembers (m.2.field "procedures").members).flatMap (procedureObjects m.1)

/-- The type objects of a value that is read as a document. -/
def documentObjects (v : Json) : List TypeObject :=
  (Json.sortedMembers v.members).flatMap serviceObjects

/-! ## What is listed explains both sides -/

/-- The type objects account for warnings and for unknown codes with their services: both come from
the objects in their order.  Each of the objects is read as a type, and the warnings about it and
its parts come together. -/
structure Accounts (file : Bytes) (objects : List TypeObject) (leaves : List (Bytes × Bytes))
    (ws : List Warning) : Prop where
  warnings : ws = objects.flatMap (TypeObject.warnings file)
  leaves : leaves = objects.filterMap TypeObject.leaf?
  together : ∀ o ∈ objects, ∃ t us,
    TypeOf file o.service o.place (.object o.members) t us ∧ us <:+: ws

section

variable {file service : Bytes}

theorem Accounts.nil : Accounts file [] [] [] := ⟨rfl, rfl, by simp⟩

theorem Accounts.append {os ps : List TypeObject} {ls ms : List (Bytes × Bytes)}
    {us vs : List Warning} (h : Accounts file os ls us) (h' : Accounts file ps ms vs) :
    Accounts file (os ++ ps) (ls ++ ms) (us ++ vs) := by
  refine ⟨?_, ?_, ?_⟩
  · rw [h.warnings, h'.warnings, List.flatMap_append]
  · rw [h.leaves, h'.leaves, List.filterMap_append]
  · intro o ho
    obtain ho | ho := List.mem_append.mp ho
    · obtain ⟨t, ws, ht, hws⟩ := h.together o ho
      exact ⟨t, ws, ht, hws.trans (List.infix_append' [] us vs)⟩
    · obtain ⟨t, ws, ht, hws⟩ := h'.together o ho
      exact ⟨t, ws, ht, hws.trans (List.suffix_append us vs).isInfix⟩

/-- Objects that are read one after another account for everything that is read. -/
theorem EachOf.accounts {α β : Type} {R : Nat → α → β → List Warning → Prop}
    {f : Nat → α → List TypeObject} {g : β → List (Bytes × Bytes)} {i : Nat} {as : List α}
    {bs : List β} {ws : List Warning} (h : EachOf R i as bs ws)
    (hR : ∀ i a b us, R i a b us → Accounts file (f i a) (g b) us) :
    Accounts file ((as.zipIdx i).flatMap fun e => f e.2 e.1) (bs.flatMap g) ws := by
  induction h with
  | nil => exact .nil
  | cons ha _ ih =>
      rw [List.zipIdx_cons, List.flatMap_cons, List.flatMap_cons]
      exact (hR _ _ _ _ ha).append ih

theorem EachOf.accounts_unnumbered {α β : Type} {R : α → β → List Warning → Prop}
    {f : α → List TypeObject} {g : β → List (Bytes × Bytes)} {i : Nat} {as : List α}
    {bs : List β} {ws : List Warning} (h : EachOf (fun _ => R) i as bs ws)
    (hR : ∀ a b us, R a b us → Accounts file (f a) (g b) us) :
    Accounts file (as.flatMap f) (bs.flatMap g) ws := by
  have hnumbered := h.accounts (f := fun _ => f) fun _ => hR
  rwa [← List.flatMap_map Prod.fst, List.zipIdx_map_fst] at hnumbered

/-! ### Types -/

theorem Accounts.object {o : TypeObject} {t : ServiceType} {own us : List Warning}
    {leaf : Option (Bytes × Bytes)} {ls : List (Bytes × Bytes)}
    (h : Accounts file (o.parts.flatMap fun p => typeObjects o.service p.1 p.2) ls us)
    (hown : o.warnings file = own) (hleaf : o.leaf? = leaf)
    (hread : TypeOf file o.service o.place (.object o.members) t (own ++ us)) :
    Accounts file (typeObjects o.service o.place (.object o.members)) (leaf.toList ++ ls)
      (own ++ us) := by
  subst hown hleaf
  rw [typeObjects_object]
  refine ⟨?_, ?_, ?_⟩
  · rw [h.warnings, List.flatMap_cons]
  · rw [h.leaves, List.filterMap_cons]
    cases o.leaf? <;> rfl
  · rintro p (_ | ⟨_, hp⟩)
    · exact ⟨t, _, hread, List.infix_rfl⟩
    · obtain ⟨u, vs, hu, hvs⟩ := h.together p hp
      exact ⟨u, vs, hu, hvs.trans (List.suffix_append _ us).isInfix⟩

section

variable {place : Place} {members : Members} {code : Bytes} {items : List Json}

theorem accounts_tuple {ts : List ServiceType} {ws : List Warning}
    (hcode : First members "code" (.string "TUPLE"))
    (htypes : First members "types" (.array items))
    (hread : TypesOf file service place 0 items ts ws)
    (h : Accounts file
      (items.zipIdx.flatMap fun e => typeObjects service (place.item "types" e.2) e.1)
      (ts.flatMap fun t => t.unknownCodes.map fun code => (service, code)) ws) :
    Accounts file (typeObjects service place (.object members))
      ((ServiceType.tuple ts).unknownCodes.map fun code => (service, code)) ws := by
  let o : TypeObject := ⟨service, place, members⟩
  have hcode? : o.code? = some ServiceType.tupleCode := TypeObject.code?_eq hcode
  have hunknown : o.unknown? = none := TypeObject.unknown?_eq_none hcode? (.inl (by decide))
  have hown : o.warnings file = [] := by
    have hlist : ServiceType.tupleCode ≠ ServiceType.listCode := by decide
    simp [TypeObject.warnings, TypeObject.hasSurplus, hcode?, hunknown, hlist]
  have hleaf : o.leaf? = none := by rw [TypeObject.leaf?, hunknown, Option.map_none]
  have hparts : o.parts = items.zipIdx.map fun e => (place.item "types" e.2, e.1) := by
    rw [TypeObject.parts, if_pos hcode?, TypeObject.entries_eq htypes]
  rw [ServiceType.unknownCodes_tuple, List.map_flatMap]
  refine Accounts.object ?_ hown hleaf (.tuple hcode htypes hread)
  rwa [hparts, List.flatMap_map]

theorem accounts_list {t : ServiceType} {first : Json} {others : List Json} {ws : List Warning}
    (hcode : First members "code" (.string "LIST"))
    (htypes : First members "types" (.array (first :: others)))
    (hread : TypeOf file service (place.item "types" 0) first t ws)
    (h : Accounts file (typeObjects service (place.item "types" 0) first)
      (t.unknownCodes.map fun code => (service, code)) ws) :
    Accounts file (typeObjects service place (.object members))
      ((ServiceType.list t).unknownCodes.map fun code => (service, code))
      (surplus file service place others ++ ws) := by
  let o : TypeObject := ⟨service, place, members⟩
  have hcode? : o.code? = some ServiceType.listCode := TypeObject.code?_eq hcode
  have hentries : o.entries = first :: others := TypeObject.entries_eq htypes
  have hunknown : o.unknown? = none := TypeObject.unknown?_eq_none hcode? (.inl (by decide))
  have hown : o.warnings file = surplus file service place others := by
    rw [TypeObject.warnings, TypeObject.hasSurplus, TypeObject.surplusWarning, hcode?, hentries,
      hunknown]
    cases others <;> simp [surplus, o]
  have hleaf : o.leaf? = none := by rw [TypeObject.leaf?, hunknown, Option.map_none]
  have hparts : o.parts = [(place.item "types" 0, first)] := by
    have htuple : ServiceType.listCode ≠ ServiceType.tupleCode := by decide
    simp [TypeObject.parts, hcode?, hentries, htuple, o]
  rw [ServiceType.unknownCodes_list]
  refine Accounts.object ?_ hown hleaf (.list hcode htypes hread)
  rwa [hparts, List.flatMap_singleton]

/-- An object whose code builds nothing from other types accounts for itself. -/
theorem accounts_leaf {t : ServiceType} {unknown : Option Bytes}
    (hcode : First members "code" (.string code)) (htuple : code ≠ ServiceType.tupleCode)
    (hlist : code ≠ ServiceType.listCode)
    (hunknown : TypeObject.unknown? ⟨service, place, members⟩ = unknown)
    (hcodes : t.unknownCodes = unknown.toList)
    (hread : TypeOf file service place (.object members) t
      (unknown.map fun code => unknownCode file service code place).toList) :
    Accounts file (typeObjects service place (.object members))
      (t.unknownCodes.map fun code => (service, code))
      (unknown.map fun code => unknownCode file service code place).toList := by
  let o : TypeObject := ⟨service, place, members⟩
  have hcode? : o.code? = some code := TypeObject.code?_eq hcode
  have hown : o.warnings file =
      (unknown.map fun code => unknownCode file service code place).toList := by
    simp [TypeObject.warnings, TypeObject.hasSurplus, hcode?, hlist, hunknown, o]
  have hleaf : o.leaf? = unknown.map fun code => (service, code) := by
    rw [TypeObject.leaf?, hunknown]
  have hparts : o.parts = [] := by
    simp [TypeObject.parts, hcode?, htuple, hlist]
  have hinner : Accounts file (o.parts.flatMap fun p => typeObjects o.service p.1 p.2) [] [] := by
    rw [hparts]
    exact .nil
  have h := hinner.object hown hleaf (by rwa [List.append_nil])
  rw [List.append_nil, List.append_nil] at h
  rwa [hcodes, ← Option.toList_map]

end

mutual

/-- The type objects in a value account for the type that it is read as. -/
theorem TypeOf.accounts {place : Place} {v : Json} {t : ServiceType} {ws : List Warning} :
    TypeOf file service place v t ws →
      Accounts file (typeObjects service place v) (t.unknownCodes.map fun code => (service, code))
        ws
  | .tuple hcode htypes helements => accounts_tuple hcode htypes helements helements.accounts
  | .list hcode htypes helement => accounts_list hcode htypes helement helement.accounts
  | .reference hcode hservice hname =>
      accounts_leaf hcode (by decide) (by decide)
        (TypeObject.unknown?_eq_none (TypeObject.code?_eq hcode) (.inl (by decide))) rfl
        (.reference hcode hservice hname)
  | .primitive p hcode =>
      accounts_leaf hcode (primitive_code_ne p).1 (primitive_code_ne p).2.1
        (TypeObject.unknown?_eq_none (TypeObject.code?_eq hcode) (.inr ⟨p, rfl⟩)) rfl
        (.primitive p hcode)
  | .unknown hcode htuple hlist hclass hprimitive =>
      accounts_leaf hcode htuple hlist
        (TypeObject.unknown?_eq_some (TypeObject.code?_eq hcode) htuple hlist hclass hprimitive) rfl
        (.unknown hcode htuple hlist hclass hprimitive)

theorem TypesOf.accounts {place : Place} {i : Nat} {items : List Json} {ts : List ServiceType}
    {ws : List Warning} :
    TypesOf file service place i items ts ws →
      Accounts file
        ((items.zipIdx i).flatMap fun e => typeObjects service (place.item "types" e.2) e.1)
        (ts.flatMap fun t => t.unknownCodes.map fun code => (service, code)) ws
  | .nil => .nil
  | .cons ht hts => by
      rw [List.zipIdx_cons, List.flatMap_cons, List.flatMap_cons]
      exact ht.accounts.append hts.accounts

end

/-! ### Documents -/

theorem ParameterOf.accounts {place : Place} {i : Nat} {v : Json} {p : Parameter}
    {ws : List Warning} (h : ParameterOf file service place i v p ws) :
    Accounts file
      (typeObjects service ((place.item "parameters" i).sub "type") (v.field "type"))
      (p.type.unknownCodes.map fun code => (service, code)) ws := by
  obtain ⟨members, t, rfl, _, htype, ht⟩ := h
  rw [htype.field_eq]
  exact ht.accounts

theorem ResultOf.accounts {place : Place} {members : Members} {t : ServiceType}
    {ws : List Warning} (h : ResultOf file service place members t ws) :
    Accounts file
      (typeObjects service (place.sub "return_type") ((Json.object members).field "return_type"))
      (t.unknownCodes.map fun code => (service, code)) ws := by
  obtain ⟨v, hfirst, ht⟩ | ⟨hlacks, rfl, rfl⟩ := h
  · rw [hfirst.field_eq]
    exact ht.accounts
  · rw [hlacks.field_eq, typeObjects_null]
    exact .nil

theorem ProcedureOf.accounts {m : Bytes × Json} {p : Procedure} {ws : List Warning}
    (h : ProcedureOf file service m p ws) :
    Accounts file (procedureObjects service m) (p.unknownLeaves service) ws := by
  obtain ⟨key, v⟩ := m
  obtain ⟨members, items, us, vs, rfl, hitems, hparameters, hresult, _, rfl⟩ := h
  rw [procedureObjects, Procedure.unknownLeaves, Procedure.types, List.flatMap_append,
    List.flatMap_map, List.flatMap_singleton, hitems.field_eq, Json.items]
  exact (hparameters.accounts fun _ _ _ _ hp => hp.accounts).append hresult.accounts

theorem ServiceOf.accounts {m : Bytes × Json} {s : Service} {ws : List Warning}
    (h : ServiceOf file m s ws) : Accounts file (serviceObjects m) s.unknownLeaves ws := by
  obtain ⟨key, v⟩ := m
  obtain ⟨members, _, _, procedures, _, _, procedures', rfl, _, _, _, _, _, _, hfirst, hsorts,
    hprocedures, hname, _⟩ := h
  rw [serviceObjects, Service.unknownLeaves, hname, hfirst.field_eq, Json.members,
    Json.sortedMembers, ← Bytes.sorts_iff.mp hsorts]
  exact hprocedures.accounts_unnumbered fun _ _ _ hp => hp.accounts

theorem DocumentOf.accounts {v : Json} {d : Document} (h : DocumentOf file v d) :
    Accounts file (documentObjects v) d.unknownLeaves d.warnings := by
  obtain ⟨members, members', rfl, hsorts, hservices, _⟩ := h
  rw [documentObjects, unknownLeaves, Json.members, Json.sortedMembers,
    ← Bytes.sorts_iff.mp hsorts]
  exact hservices.accounts_unnumbered fun _ _ _ hs => hs.accounts

/-! ## The two kinds of warnings -/

/-- The warning is about an unknown code. -/
def isUnknownCode (w : Warning) : Bool := w.code = Warning.unknownTypeCode

/-- The warning is about the code, somewhere in the service. -/
def WarnsOf (file : Bytes) (leaf : Bytes × Bytes) (w : Warning) : Prop :=
  w.code = Warning.unknownTypeCode ∧ w.service = leaf.1 ∧ w.file = some file ∧
    ∃ place : Place,
      w.message = "unsupported type code " ++ quote leaf.2 ++ " at " ++ place.text

theorem isUnknownCode_unknownCode (code : Bytes) (place : Place) :
    isUnknownCode (unknownCode file service code place) = true := by
  simp [isUnknownCode, unknownCode]

theorem isUnknownCode_surplusWarning (o : TypeObject) :
    isUnknownCode (o.surplusWarning file) = false := by
  have hne : Warning.extraListTypes ≠ Warning.unknownTypeCode := by decide
  simp [isUnknownCode, TypeObject.surplusWarning, extraTypes, hne]

theorem filter_isUnknownCode_warnings (o : TypeObject) :
    (o.warnings file).filter isUnknownCode =
      (o.unknown?.map fun code => unknownCode file o.service code o.place).toList := by
  rw [TypeObject.warnings]
  cases o.hasSurplus <;> cases o.unknown? <;>
    simp [isUnknownCode_unknownCode, isUnknownCode_surplusWarning]

theorem filter_not_isUnknownCode_warnings (o : TypeObject) :
    ((o.warnings file).filter fun w => !isUnknownCode w) =
      if o.hasSurplus then [o.surplusWarning file] else [] := by
  rw [TypeObject.warnings]
  cases o.hasSurplus <;> cases o.unknown? <;>
    simp [isUnknownCode_unknownCode, isUnknownCode_surplusWarning]

/-- Each unknown code of the objects has its warning. -/
theorem forall₂_warnsOf (objects : List TypeObject) :
    List.Forall₂ (WarnsOf file) (objects.filterMap TypeObject.leaf?)
      ((objects.flatMap (TypeObject.warnings file)).filter isUnknownCode) := by
  induction objects with
  | nil => exact .nil
  | cons o os ih =>
      rw [List.flatMap_cons, List.filter_append, filter_isUnknownCode_warnings,
        List.filterMap_cons, TypeObject.leaf?]
      cases o.unknown? with
      | none => exact ih
      | some code => exact .cons ⟨rfl, rfl, rfl, o.place, rfl⟩ ih

/-- The other warnings are those about lists. -/
theorem filter_not_isUnknownCode (objects : List TypeObject) :
    ((objects.flatMap (TypeObject.warnings file)).filter fun w => !isUnknownCode w) =
      (objects.filter TypeObject.hasSurplus).map (TypeObject.surplusWarning file) := by
  induction objects with
  | nil => rfl
  | cons o os ih =>
      rw [List.flatMap_cons, List.filter_append, filter_not_isUnknownCode_warnings, ih,
        List.filter_cons]
      cases o.hasSurplus <;> rfl

/-- Reading a list with more than one element type warns of that before anything that is in the
element type. -/
theorem TypeOf.surplus_first {o : TypeObject} {t : ServiceType} {ws : List Warning}
    (h : TypeOf file o.service o.place (.object o.members) t ws) (hsurplus : o.hasSurplus = true) :
    ∃ first others element us, o.entries = first :: others ∧
      TypeOf file o.service (o.place.item "types" 0) first element us ∧
      ws = o.surplusWarning file :: us := by
  obtain ⟨hcode?, hlength⟩ := of_decide_eq_true hsurplus
  have hcode : ∀ {code : Bytes}, First o.members "code" (.string code) →
      code = ServiceType.listCode := by
    intro code hfirst
    exact Option.some.inj ((TypeObject.code?_eq hfirst).symm.trans hcode?)
  cases h with
  | tuple hfirst => exact absurd (hcode hfirst) (by decide)
  | @list _ _ first others _ us _ htypes helement =>
      have hentries : o.entries = first :: others := TypeObject.entries_eq htypes
      refine ⟨first, others, _, us, hentries, helement, ?_⟩
      rw [TypeObject.surplusWarning, hentries]
      cases others with
      | nil => simp [hentries] at hlength
      | cons => rfl
  | reference hfirst => exact absurd (hcode hfirst) (by decide)
  | primitive p hfirst => exact absurd (hcode hfirst) (primitive_code_ne p).2.1
  | unknown hfirst _ hlist => exact absurd (hcode hfirst) hlist

/-- How the warnings of a document follow from the value that it was read from and from what it
holds. -/
structure WarnedAbout (file : Bytes) (v : Json) (d : Document) : Prop where
  /-- The warnings are those about the type objects, one object after another. -/
  listed : d.warnings = (documentObjects v).flatMap (TypeObject.warnings file)
  /-- There is one warning for each unknown code in the document, in their order. -/
  unknown : List.Forall₂ (WarnsOf file) d.unknownLeaves (d.warnings.filter isUnknownCode)
  /-- There is one other warning for each list that has more than one element type, in the order
  in which they are read. -/
  surplus : (d.warnings.filter fun w => !isUnknownCode w) =
    ((documentObjects v).filter TypeObject.hasSurplus).map (TypeObject.surplusWarning file)
  /-- The warnings about what the element type holds come right behind the one about its list. -/
  before : ∀ o ∈ documentObjects v, o.hasSurplus = true →
    ∃ first others element ws, o.entries = first :: others ∧
      TypeOf file o.service (o.place.item "types" 0) first element ws ∧
      o.surplusWarning file :: ws <:+: d.warnings
  /-- Where no warning is about an unknown code, there is none at any depth. -/
  known : (∀ w ∈ d.warnings, w.code ≠ Warning.unknownTypeCode) →
    ∀ s ∈ d.services, ∀ p ∈ s.procedures, ∀ t ∈ p.types, ∀ code,
      ¬ ServiceType.Within (.unknown code) t

theorem mem_unknownLeaves {d : Document} {s : Service} {p : Procedure} {t : ServiceType}
    {code : Bytes} (hs : s ∈ d.services) (hp : p ∈ s.procedures) (ht : t ∈ p.types)
    (hcode : ServiceType.Within (.unknown code) t) : (s.name, code) ∈ d.unknownLeaves := by
  refine List.mem_flatMap.mpr ⟨s, hs, List.mem_flatMap.mpr ⟨p, hp, ?_⟩⟩
  refine List.mem_flatMap.mpr ⟨t, ht, List.mem_map.mpr ⟨code, ?_, rfl⟩⟩
  exact ServiceType.mem_unknownCodes_iff.mpr hcode

theorem DocumentOf.warnedAbout {v : Json} {d : Document} (h : DocumentOf file v d) :
    WarnedAbout file v d := by
  have haccounts := h.accounts
  have hunknown :
      List.Forall₂ (WarnsOf file) d.unknownLeaves (d.warnings.filter isUnknownCode) := by
    rw [haccounts.leaves, haccounts.warnings]
    exact forall₂_warnsOf _
  refine ⟨haccounts.warnings, hunknown, ?_, ?_, ?_⟩
  · rw [haccounts.warnings]
    exact filter_not_isUnknownCode _
  · intro o ho hsurplus
    obtain ⟨t, us, ht, hus⟩ := haccounts.together o ho
    obtain ⟨first, others, element, ws, hentries, helement, rfl⟩ := ht.surplus_first hsurplus
    exact ⟨first, others, element, ws, hentries, helement, hus⟩
  · intro hnone s hs p hp t ht code hcode
    have hempty : d.warnings.filter isUnknownCode = [] := by
      rw [List.filter_eq_nil_iff]
      intro w hw
      simpa [isUnknownCode] using hnone w hw
    rw [hempty, List.forall₂_nil_right_iff] at hunknown
    simpa [hunknown] using mem_unknownLeaves hs hp ht hcode

end

end RpcBindings.Document

namespace RpcBindings.Generation

open RpcBindings.Document

/-- The warnings of a document that is read are complete and exact: one for each unknown code that
it holds, one for each list whose element types are not all read, and no other. -/
theorem readDocument_warns_exactly {allowance : Allowance} {file data : Bytes} {d : Document}
    (h : (readDocument allowance file data).1 = .ok d) :
    ∃ v, Json.IsText data v ∧ WarnedAbout file v d := by
  obtain ⟨_, v, hv, hd⟩ := readDocument_eq_ok_iff.mp (Prod.ext h rfl)
  exact ⟨v, hv, hd.warnedAbout⟩

set_option maxRecDepth 4000 in
/-- What stands behind the first element type of a list is not warned about; what stands in that
one is, at any depth. -/
theorem readDocument_warns_exactly_nested :
    let data : Bytes :=
      "\x7b\"S\":\x7b\"classes\":\x7b\x7d,\"enumerations\":\x7b\x7d,\"procedures\":\x7b" ++
      "\"P\":\x7b\"parameters\":[],\"return_type\":\x7b\"code\":\"LIST\",\"types\":[" ++
      "\x7b\"code\":\"TUPLE\",\"types\":[\x7b\"code\":\"X\"\x7d,\x7b\"code\":\"Y\"\x7d]\x7d," ++
      "1]\x7d\x7d\x7d\x7d\x7d"
    ∃ d, (readDocument (.checks 1) "a.json" data).1 = .ok d ∧
      d.unknownLeaves = ["X", "Y"].map (fun code => (Bytes.ofString "S", Bytes.ofString code)) ∧
      d.warnings.map Warning.code =
        [Warning.extraListTypes, Warning.unknownTypeCode, Warning.unknownTypeCode] ∧
      ∃ v, Json.IsText data v ∧ WarnedAbout "a.json" v d := by
  intro data
  let leaf (code : Bytes) : Json := .object [("code", .string code)]
  let returned : Json := .object [("code", .string "LIST"), ("types", .array [
    .object [("code", .string "TUPLE"), ("types", .array [leaf "X", leaf "Y"])], .number "1"])]
  let result : ServiceType := .list (.tuple [.unknown "X", .unknown "Y"])
  have hfirst {members : Json.Members} {key : Bytes} {v : Json}
      (h : Json.member? key members = some v) : First members key v := member?_eq_some_iff.mp h
  have hleaf {place : Place} {code : Bytes} (h : code ∈ [Bytes.ofString "X", Bytes.ofString "Y"]) :
      TypeOf "a.json" "S" place (leaf code) (.unknown code)
        [unknownCode "a.json" "S" code place] := by
    have hcode : code ≠ Bytes.ofString "TUPLE" ∧ code ≠ Bytes.ofString "LIST" ∧
        code ≠ Bytes.ofString "CLASS" ∧ ∀ p : Primitive, code ≠ p.code := by
      rw [← ofCode?_eq_none_iff]
      revert code
      decide
    exact .unknown (hfirst rfl) hcode.1 hcode.2.1 hcode.2.2.1 hcode.2.2.2
  obtain ⟨ws, htype, hcodes⟩ : ∃ ws,
      TypeOf "a.json" "S" ["S", "procedures", "P", "return_type"] returned result ws ∧
      ws.map Warning.code =
        [Warning.extraListTypes, Warning.unknownTypeCode, Warning.unknownTypeCode] := by
    refine ⟨_, .list (hfirst rfl) (hfirst rfl) (.tuple (hfirst rfl) (hfirst rfl)
      (.cons (hleaf ?_) (.cons (hleaf ?_) .nil))), rfl⟩
    · simp
    · simp
  have hprocedure : ProcedureOf "a.json" "S"
      ("P", .object [("parameters", .array []), ("return_type", returned)]) ⟨"P", [], result⟩ ws :=
    ⟨_, [], [], ws, rfl, hfirst rfl, .nil, .inl ⟨_, hfirst rfl, htype⟩, rfl, rfl⟩
  have hdata : Json.IsText data (.object [("S", .object [("classes", .object []),
      ("enumerations", .object []), ("procedures", .object [
        ("P", .object [("parameters", .array []), ("return_type", returned)])])])]) :=
    Json.parse?_eq_some_iff.mp rfl
  have hdocument := describes_of_procedures hdata ⟨List.pairwise_singleton _ _, fun _ => rfl⟩
    (.singleton hprocedure)
  have hcheck : (Allowance.checks 1).check = .ok (.checks 0) := rfl
  have hread := congrArg Prod.fst (readDocument_eq_ok_iff.mpr ⟨hcheck, hdocument⟩)
  exact ⟨_, hread, rfl, hcodes, readDocument_warns_exactly hread⟩

end RpcBindings.Generation
