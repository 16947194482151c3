import Mathlib.Data.List.Forall2
import RpcBindings.Document.Reader
import RpcBindings.Proofs.Json.Grammar

/-!
# The grammar of documents (SPEC §6)

Which JSON texts describe services, and what each of them describes, said without a reader.

The shape of a document is a tower of predicates on JSON trees, from types up to whole documents.
`IsType` is recursive: a tuple asks every element type to be a type, a list only the first.  Where a
member is looked up the first one with the key counts; where members are listed all of them do.

What a document describes is a tower of relations of the same form.  They go along with the place at
which a value stands, because warnings name it, and with the warnings in the order in which they are
met.  Members of an object come in increasing order of their keys and items of an array as they
stand.
-/

set_option autoImplicit false

namespace RpcBindings.Document

open RpcBindings.Json (Members)
open RpcBindings.Bytes (Sorts)

/-! ## Members -/

/-- The first member with the key has the value. -/
def First (members : Members) (key : Bytes) (v : Json) : Prop :=
  ∃ before after, members = before ++ (key, v) :: after ∧ ∀ m ∈ before, m.1 ≠ key

/-- No member has the key. -/
def Lacks (members : Members) (key : Bytes) : Prop := ∀ m ∈ members, m.1 ≠ key

/-! ## Shapes -/

/-- A type: an object with a code, and with what the code asks for. -/
inductive IsType : Json → Prop where
  | tuple {members : Members} {items : List Json} :
      First members "code" (.string "TUPLE") → First members "types" (.array items) →
      (∀ v ∈ items, IsType v) → IsType (.object members)
  /-- Nothing is asked of the element types behind the first. -/
  | list {members : Members} {first : Json} {others : List Json} :
      First members "code" (.string "LIST") → First members "types" (.array (first :: others)) →
      IsType first → IsType (.object members)
  | reference {members : Members} {service name : Bytes} :
      First members "code" (.string "CLASS") → First members "service" (.string service) →
      First members "name" (.string name) → IsType (.object members)
  /-- Any other code asks for nothing. -/
  | other {members : Members} {code : Bytes} :
      First members "code" (.string code) →
      code ≠ Bytes.ofString "TUPLE" → code ≠ Bytes.ofString "LIST" →
      code ≠ Bytes.ofString "CLASS" → IsType (.object members)

/-- An object with a string as its name. -/
def IsNamed (v : Json) : Prop :=
  ∃ members name, v = .object members ∧ First members "name" (.string name)

/-- An enumeration: an object with an array of named values. -/
def IsEnumeration (v : Json) : Prop :=
  ∃ members items, v = .object members ∧ First members "values" (.array items) ∧
    ∀ item ∈ items, IsNamed item

/-- A parameter: an object with a name and a type. -/
def IsParameter (v : Json) : Prop :=
  ∃ members name t, v = .object members ∧ First members "name" (.string name) ∧
    First members "type" t ∧ IsType t

/-- A procedure: an object with an array of parameters and, if it has a result, the type of it. -/
def IsProcedure (v : Json) : Prop :=
  ∃ members items, v = .object members ∧ First members "parameters" (.array items) ∧
    (∀ item ∈ items, IsParameter item) ∧ ∀ t, First members "return_type" t → IsType t

/-- A service: an object with objects of classes, enumerations and procedures. -/
def IsService (v : Json) : Prop :=
  ∃ members classes enumerations procedures, v = .object members ∧
    First members "classes" (.object classes) ∧
    First members "enumerations" (.object enumerations) ∧
    First members "procedures" (.object procedures) ∧
    (∀ m ∈ enumerations, IsEnumeration m.2) ∧ ∀ m ∈ procedures, IsProcedure m.2

/-- A document: an object of services. -/
def IsDocument (v : Json) : Prop := ∃ members, v = .object members ∧ ∀ m ∈ members, IsService m.2

/-- The bytes are a JSON text that is a document. -/
def Conforms (data : Bytes) : Prop := ∃ v, Json.IsText data v ∧ IsDocument v

/-! ## Meanings -/

/-- Things at consecutive numbers mean other things, and their warnings come one after another. -/
inductive EachOf {α β : Type} (R : Nat → α → β → List Warning → Prop) :
    Nat → List α → List β → List Warning → Prop where
  | nil {i : Nat} : EachOf R i [] [] []
  | cons {i : Nat} {a : α} {b : β} {as : List α} {bs : List β} {us vs : List Warning} :
      R i a b us → EachOf R (i + 1) as bs vs → EachOf R i (a :: as) (b :: bs) (us ++ vs)

section

variable (file service : Bytes)

/-- The warning about the element types of a list behind the first, if there are any. -/
def surplus (place : Place) : List Json → List Warning
  | [] => []
  | others => [extraTypes file service place (others.length + 1)]

mutual

/-- The type that a value at a place describes, with the warnings about it. -/
inductive TypeOf : Place → Json → ServiceType → List Warning → Prop where
  | tuple {place : Place} {members : Members} {items : List Json} {ts : List ServiceType}
      {ws : List Warning} :
      First members "code" (.string "TUPLE") → First members "types" (.array items) →
      TypesOf place 0 items ts ws → TypeOf place (.object members) (.tuple ts) ws
  | list {place : Place} {members : Members} {first : Json} {others : List Json}
      {t : ServiceType} {ws : List Warning} :
      First members "code" (.string "LIST") → First members "types" (.array (first :: others)) →
      TypeOf (place.item "types" 0) first t ws →
      TypeOf place (.object members) (.list t) (surplus file service place others ++ ws)
  | reference {place : Place} {members : Members} {owner name : Bytes} :
      First members "code" (.string "CLASS") → First members "service" (.string owner) →
      First members "name" (.string name) →
      TypeOf place (.object members) (.reference owner name) []
  | primitive {place : Place} {members : Members} (p : Primitive) :
      First members "code" (.string p.code) → TypeOf place (.object members) (.primitive p) []
  | unknown {place : Place} {members : Members} {code : Bytes} :
      First members "code" (.string code) →
      code ≠ Bytes.ofString "TUPLE" → code ≠ Bytes.ofString "LIST" →
      code ≠ Bytes.ofString "CLASS" → (∀ p : Primitive, code ≠ p.code) →
      TypeOf place (.object members) (.unknown code) [unknownCode file service code place]

/-- The element types of the type at a place, numbered from some number on. -/
inductive TypesOf : Place → Nat → List Json → List ServiceType → List Warning → Prop where
  | nil {place : Place} {i : Nat} : TypesOf place i [] [] []
  | cons {place : Place} {i : Nat} {v : Json} {vs : List Json} {t : ServiceType}
      {ts : List ServiceType} {us ws : List Warning} :
      TypeOf (place.item "types" i) v t us → TypesOf place (i + 1) vs ts ws →
      TypesOf place i (v :: vs) (t :: ts) (us ++ ws)

end

/-- The name that an object has. -/
def NameOf (v : Json) (name : Bytes) : Prop :=
  ∃ members, v = .object members ∧ First members "name" (.string name)

/-- The enumeration that a member describes: its values are named in their order. -/
def EnumerationOf (m : Bytes × Json) (e : Enumeration) : Prop :=
  ∃ members items, m.2 = .object members ∧ First members "values" (.array items) ∧
    List.Forall₂ NameOf items e.values ∧ e.name = m.1

/-- The parameter that the `i`th item of an array describes; `place` is where the procedure
stands. -/
def ParameterOf (place : Place) (i : Nat) (v : Json) (p : Parameter) (ws : List Warning) : Prop :=
  ∃ members t, v = .object members ∧ First members "name" (.string p.name) ∧
    First members "type" t ∧
    TypeOf file service ((place.item "parameters" i).sub "type") t p.type ws

/-- The type of the result of a procedure with these members. -/
def ResultOf (place : Place) (members : Members) (t : ServiceType) (ws : List Warning) : Prop :=
  (∃ v, First members "return_type" v ∧ TypeOf file service (place.sub "return_type") v t ws) ∨
    (Lacks members "return_type" ∧ t = .void ∧ ws = [])

/-- The procedure that a member describes. -/
def ProcedureOf (m : Bytes × Json) (p : Procedure) (ws : List Warning) : Prop :=
  let place : Place := [service, "procedures", m.1]
  ∃ members items us vs, m.2 = .object members ∧ First members "parameters" (.array items) ∧
    EachOf (ParameterOf file service place) 0 items p.parameters us ∧
    ResultOf file service place members p.result vs ∧ p.name = m.1 ∧ ws = us ++ vs

/-- The service that a member describes. -/
def ServiceOf (m : Bytes × Json) (s : Service) (ws : List Warning) : Prop :=
  ∃ members classes enumerations procedures classes' enumerations' procedures',
    m.2 = .object members ∧
    First members "classes" (.object classes) ∧ Sorts Prod.fst classes classes' ∧
    s.classes = classes'.map Prod.fst ∧
    First members "enumerations" (.object enumerations) ∧
    Sorts Prod.fst enumerations enumerations' ∧
    List.Forall₂ EnumerationOf enumerations' s.enumerations ∧
    First members "procedures" (.object procedures) ∧ Sorts Prod.fst procedures procedures' ∧
    EachOf (fun _ => ProcedureOf file m.1) 0 procedures' s.procedures ws ∧
    s.name = m.1 ∧ s.file = file

/-- The document that a value describes. -/
def DocumentOf (v : Json) (d : Document) : Prop :=
  ∃ members members', v = .object members ∧ Sorts Prod.fst members members' ∧
    EachOf (fun _ => ServiceOf file) 0 members' d.services d.warnings ∧ d.file = file

end

/-- The document that the bytes of a file describe. -/
def Describes (file data : Bytes) (d : Document) : Prop :=
  ∃ v, Json.IsText data v ∧ DocumentOf file v d

end RpcBindings.Document
