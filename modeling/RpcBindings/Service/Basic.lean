import RpcBindings.Service.Type

/-!
# Services (SPEC §3)

What a schema says about a remote service: its classes, its enumerations and its procedures.  Names
are kept as they are spelled, since calls go over the wire under them, and parameters and values keep
their order, since both are told apart by position.
-/

set_option autoImplicit false

namespace RpcBindings

/-- A parameter of a procedure. -/
structure Parameter where
  name : Bytes
  type : ServiceType
  deriving Repr, Inhabited

/-- A procedure that can be called remotely.  Its result is `void` when it has none. -/
structure Procedure where
  name : Bytes
  parameters : List Parameter
  result : ServiceType
  deriving Repr, Inhabited

/-- The procedure has a result. -/
def Procedure.hasResult (p : Procedure) : Bool :=
  match p.result with
  | .void => false
  | _ => true

/-- An enumeration with its values in the order of their numbers. -/
structure Enumeration where
  name : Bytes
  values : List Bytes
  deriving DecidableEq, Repr, Inhabited

/-- A service, with the file it was read from. -/
structure Service where
  name : Bytes
  classes : List Bytes
  enumerations : List Enumeration
  procedures : List Procedure
  file : Bytes
  deriving Repr, Inhabited

/-- Something that does not stop a run but that its user should know. -/
structure Warning where
  code : Bytes
  message : Bytes
  /-- The file that gave rise to it, if there is one. -/
  file : Option Bytes
  service : Bytes
  deriving DecidableEq, Repr, Inhabited

namespace Warning

/-- The code for a type code that stands for no known type. -/
def unknownTypeCode : Bytes := "unknown_type_code"

/-- The code for a list type with more than one element type. -/
def extraListTypes : Bytes := "extra_list_types"

/-- The code for a service that is declared again. -/
def duplicateService : Bytes := "duplicate_service"

/-- The code for two functions of one name. -/
def methodNameCollision : Bytes := "method_name_collision"

end Warning

/-- What one file holds: its services in increasing order of their names. -/
structure Document where
  file : Bytes
  services : List Service
  warnings : List Warning
  deriving Repr, Inhabited

end RpcBindings
