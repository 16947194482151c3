import RpcBindings.Text.Bytes

/-!
# Types of parameters and results (SPEC §3)

A schema names a type by a code.  Five codes are primitives, three build tuples, lists and references
to classes, and every other code is kept as it is spelled, as a type about which nothing is known.
-/

set_option autoImplicit false

namespace RpcBindings

/-- The primitive types. -/
inductive Primitive where
  | string
  | sint32
  | bool
  | float
  | double
  deriving DecidableEq, Repr, Inhabited

namespace Primitive

/-- The code of a primitive type in a schema. -/
def code : Primitive → Bytes
  | .string => "STRING"
  | .sint32 => "SINT32"
  | .bool => "BOOL"
  | .float => "FLOAT"
  | .double => "DOUBLE"

/-- The name of a primitive type. -/
def name : Primitive → Bytes
  | .string => "String"
  | .sint32 => "SInt32"
  | .bool => "Bool"
  | .float => "Float"
  | .double => "Double"

/-- The primitive types in the order of their numbers, from 0 on. -/
def all : List Primitive := [.string, .sint32, .bool, .float, .double]

/-- The primitive type with a code. -/
def ofCode? (code : Bytes) : Option Primitive := all.find? fun p => p.code = code

end Primitive

/-- The type of a parameter or a result. -/
inductive ServiceType where
  /-- No type is given: a procedure without a result has this one. -/
  | void
  | primitive (p : Primitive)
  /-- A code that stands for no type known here. -/
  | unknown (code : Bytes)
  | tuple (elements : List ServiceType)
  | list (element : ServiceType)
  /-- A class of some service, which need not be at hand. -/
  | reference (service name : Bytes)
  deriving Repr, Inhabited

namespace ServiceType

/-- The code that builds a tuple. -/
def tupleCode : Bytes := "TUPLE"

/-- The code that builds a list. -/
def listCode : Bytes := "LIST"

/-- The code that refers to a class. -/
def classCode : Bytes := "CLASS"

/-- The type of a code that builds nothing: a primitive, or an unknown one. -/
def ofCode (code : Bytes) : ServiceType :=
  match Primitive.ofCode? code with
  | some p => .primitive p
  | none => .unknown code

mutual

/-- The services whose classes a type refers to, from left to right. -/
def services : ServiceType → List Bytes
  | .tuple elements => servicesAll elements
  | .list element => services element
  | .reference service _ => [service]
  | _ => []

/-- The services that some types refer to, from left to right. -/
def servicesAll : List ServiceType → List Bytes
  | [] => []
  | t :: ts => services t ++ servicesAll ts

end

end ServiceType

/-- The four families of types, in the order of their numbers. -/
inductive TypeFamily where
  | primitive
  | tuple
  | list
  | reference
  deriving DecidableEq, Repr, Inhabited

namespace TypeFamily

/-- The name of a family. -/
def name : TypeFamily → Bytes
  | .primitive => "Primitive"
  | .tuple => "Tuple"
  | .list => "List"
  | .reference => "Class"

/-- The families in the order of their numbers, from 0 on. -/
def all : List TypeFamily := [.primitive, .tuple, .list, .reference]

end TypeFamily

/-- The name of the `n`th of some things, which is `Unknown` beyond them. -/
def nameAt {α : Type} (all : List α) (name : α → Bytes) (n : Int) : Bytes :=
  match n with
  | .ofNat i =>
      match all[i]? with
      | some a => name a
      | none => "Unknown"
  | .negSucc _ => "Unknown"

/-- The name of the primitive type with a number. -/
def Primitive.nameOfNumber (n : Int) : Bytes := nameAt Primitive.all Primitive.name n

/-- The name of the family of types with a number. -/
def TypeFamily.nameOfNumber (n : Int) : Bytes := nameAt TypeFamily.all TypeFamily.name n

end RpcBindings
