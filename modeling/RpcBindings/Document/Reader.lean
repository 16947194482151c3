import RpcBindings.Document.Reading
import RpcBindings.Json.Reader
import RpcBindings.Text.Numeral

/-!
# Reading documents (SPEC §3, §6)

A document is an object of services.  A service has objects of classes, enumerations and procedures;
an enumeration has an array of named values, a procedure an array of named and typed parameters and
perhaps the type of its result.  Members with other keys are passed over.

Objects have no order, so what they hold comes out in increasing order of the keys; arrays keep
theirs.  Of two members with one key only the first is found where one is looked up, while both
count where all are listed.
-/

set_option autoImplicit false

namespace RpcBindings.Document

open RpcBindings.Json (Members)

/-! ## Members -/

/-- The value of a member that has to be there. -/
def required (file : Bytes) (place : Place) (members : Members) (key : Bytes) : Reading Json :=
  match Json.member? key members with
  | some v => .done v
  | none => .fail ⟨file, place, .missing key⟩

/-- The members of an object that has to be there. -/
def requiredObject (file : Bytes) (place : Place) (members : Members) (key : Bytes) :
    Reading Members := do
  match ← required file place members key with
  | .object inner => .done inner
  | v => .fail ⟨file, place.sub key, .wrongKind .object v.kind⟩

/-- The items of an array that has to be there. -/
def requiredArray (file : Bytes) (place : Place) (members : Members) (key : Bytes) :
    Reading (List Json) := do
  match ← required file place members key with
  | .array items => .done items
  | v => .fail ⟨file, place.sub key, .wrongKind .array v.kind⟩

/-- The text of a string that has to be there. -/
def requiredString (file : Bytes) (place : Place) (members : Members) (key : Bytes) :
    Reading Bytes := do
  match ← required file place members key with
  | .string text => .done text
  | v => .fail ⟨file, place.sub key, .wrongKind .string v.kind⟩

/-- The members of a part that has to be an object. -/
def membersOf (file : Bytes) (place : Place) (part : Part) : Json → Reading Members
  | .object members => .done members
  | v => .fail ⟨file, place, .notObject part v.kind⟩

/-! ## Types -/

/-- The warning about a code that stands for no known type. -/
def unknownCode (file service code : Bytes) (place : Place) : Warning where
  code := Warning.unknownTypeCode
  message := "unsupported type code " ++ quote code ++ " at " ++ place.text
  file := some file
  service := service

/-- The warning about a list type with `n` element types. -/
def extraTypes (file service : Bytes) (place : Place) (n : Nat) : Warning where
  code := Warning.extraListTypes
  message := "LIST type at " ++ place.text ++ " has " ++ decimal n ++
    " element types; only the first is used"
  file := some file
  service := service

/-- The type of a code that builds nothing, with a warning when the code is unknown. -/
def readCode (file service : Bytes) (place : Place) (code : Bytes) : Reading ServiceType :=
  match Primitive.ofCode? code with
  | some p => .done (.primitive p)
  | none => do
      Reading.warn (unknownCode file service code place)
      .done (.unknown code)

mutual

/-- A type.  Of a list's element types only the first is read. -/
def readType (file service : Bytes) (place : Place) : Json → Reading ServiceType
  | .object members =>
      Reading.andThen (requiredString file place members "code") fun code =>
        if code = ServiceType.tupleCode then
          match h : Json.member? "types" members with
          | some (.array items) =>
              have : sizeOf items < sizeOf members := by
                have := Json.sizeOf_lt_of_member? h
                simp only [Json.array.sizeOf_spec] at this
                omega
              Reading.andThen (readTypes file service place 0 items) fun elements =>
                .done (.tuple elements)
          | some v => .fail ⟨file, place.sub "types", .wrongKind .array v.kind⟩
          | none => .fail ⟨file, place, .missing "types"⟩
        else if code = ServiceType.listCode then
          match h : Json.member? "types" members with
          | some (.array []) => .fail ⟨file, place.sub "types", .noElementType⟩
          | some (.array (first :: others)) =>
              have : sizeOf first < sizeOf members := by
                have := Json.sizeOf_lt_of_member? h
                simp only [Json.array.sizeOf_spec, List.cons.sizeOf_spec] at this
                omega
              Reading.andThen
                (if others.isEmpty then .done ()
                 else .warn (extraTypes file service place (others.length + 1))) fun _ =>
              Reading.andThen (readType file service (place.item "types" 0) first) fun element =>
                .done (.list element)
          | some v => .fail ⟨file, place.sub "types", .wrongKind .array v.kind⟩
          | none => .fail ⟨file, place, .missing "types"⟩
        else if code = ServiceType.classCode then
          Reading.andThen (requiredString file place members "service") fun owner =>
          Reading.andThen (requiredString file place members "name") fun name =>
            .done (.reference owner name)
        else readCode file service place code
  | v => .fail ⟨file, place, .notObject .type v.kind⟩
termination_by v => sizeOf v

/-- The element types of the type at a place, numbered from `i` on. -/
def readTypes (file service : Bytes) (place : Place) (i : Nat) :
    List Json → Reading (List ServiceType)
  | [] => .done []
  | v :: vs =>
      Reading.andThen (readType file service (place.item "types" i) v) fun t =>
      Reading.andThen (readTypes file service place (i + 1) vs) fun ts =>
        .done (t :: ts)
termination_by vs => sizeOf vs

end

/-! ## Enumerations and procedures -/

/-- The name of a value of an enumeration. -/
def readValueName (file : Bytes) (place : Place) (i : Nat) (v : Json) : Reading Bytes := do
  let place := place.item "values" i
  let members ← membersOf file place .enumerationValue v
  requiredString file place members "name"

/-- An enumeration. -/
def readEnumeration (file : Bytes) (place : Place) (name : Bytes) (v : Json) :
    Reading Enumeration := do
  let members ← membersOf file place .enumeration v
  let values ← requiredArray file place members "values"
  let names ← Reading.each (readValueName file place) 0 values
  return { name, values := names }

/-- A parameter of a procedure. -/
def readParameter (file service : Bytes) (place : Place) (i : Nat) (v : Json) :
    Reading Parameter := do
  let place := place.item "parameters" i
  let members ← membersOf file place .parameter v
  let name ← requiredString file place members "name"
  let t ← required file place members "type"
  let type ← readType file service (place.sub "type") t
  return { name, type }

/-- The type of a procedure's result, if it has one. -/
def readResult (file service : Bytes) (place : Place) (members : Members) : Reading ServiceType :=
  match Json.member? "return_type" members with
  | some t => readType file service (place.sub "return_type") t
  | none => .done .void

/-- A procedure. -/
def readProcedure (file service : Bytes) (place : Place) (name : Bytes) (v : Json) :
    Reading Procedure := do
  let members ← membersOf file place .procedure v
  let items ← requiredArray file place members "parameters"
  let parameters ← Reading.each (readParameter file service place) 0 items
  let result ← readResult file service place members
  return { name, parameters, result }

/-! ## Services -/

/-- What the members of an object are read as, in increasing order of their keys. -/
def readSorted {α : Type} (f : Bytes → Json → Reading α) (members : Members) : Reading (List α) :=
  Reading.each (fun _ m => f m.1 m.2) 0 (Json.sortedMembers members)

/-- A service. -/
def readService (file name : Bytes) (v : Json) : Reading Service := do
  let place : Place := [name]
  let members ← membersOf file place .service v
  let classes ← requiredObject file place members "classes"
  let enumerations ← requiredObject file place members "enumerations"
  let enumerations ← readSorted
    (fun key => readEnumeration file ((place.sub "enumerations").sub key) key) enumerations
  let procedures ← requiredObject file place members "procedures"
  let procedures ← readSorted
    (fun key => readProcedure file name ((place.sub "procedures").sub key) key) procedures
  return { name, classes := (Json.sortedMembers classes).map Prod.fst, enumerations, procedures, file }

/-- The services of a document. -/
def readServices (file : Bytes) (v : Json) : Reading (List Service) := do
  let members ← membersOf file [] .document v
  readSorted (readService file) members

/-- The document that a file holds. -/
def read (file data : Bytes) : Except Violation Document :=
  match Json.parse? data with
  | none => .error ⟨file, [], .invalidJson⟩
  | some v =>
      match readServices file v with
      | .error violation => .error violation
      | .ok (services, warnings) => .ok { file, services, warnings }

end RpcBindings.Document
