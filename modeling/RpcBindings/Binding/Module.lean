import RpcBindings.Binding.Literal
import RpcBindings.Binding.Setup
import RpcBindings.Binding.TypeText
import RpcBindings.Service.Basic
import RpcBindings.Text.Quoted

/-!
# The module of a service (SPEC §4.3)

Each service becomes a module: a structure that holds the client, a macro call for each class and each
enumeration, and the functions of the structure.  The first function makes the structure; after it
comes one method for each procedure whose name is in type style, in the order of the procedures.
Other procedures are skipped.

Two methods of one name, or one named as the function that makes the structure, are kept and warned
about.
-/

set_option autoImplicit false

namespace RpcBindings.Binding

open RpcBindings.Code (Argument Function Item qualify)

/-! ## Directives -/

/-- The macro call that declares a class. -/
def classDirective (schemaPath name : Bytes) : Item :=
  .macroCall (qualify schemaPath "rpc_object") [name]

/-- The macro call that declares an enumeration, with its values in their order. -/
def enumDirective (schemaPath name : Bytes) (values : List Bytes) : Item :=
  .macroCall (qualify schemaPath "rpc_enum") [name, "[" ++ Bytes.join ", " values ++ "]"]

/-! ## Functions -/

/-- The name of the function that makes the structure. -/
def constructorName : Bytes := "new"

/-- The function that makes the structure from a client. -/
def constructor (setup : Setup) : Function where
  name := constructorName
  visibility := "pub"
  borrowsSelf := false
  arguments := [⟨"client", setup.clientType⟩]
  result := "Self"
  body := ["Self \x7b client \x7d"]

/-- The arguments of the method for a procedure. -/
def methodArguments (setup : Setup) (p : Procedure) : List Argument :=
  p.parameters.map fun q => ⟨Name.memberIdent q.name, typeText setup.servicesPath q.type⟩

/-- The values that a call passes on, from the `i`th argument on. -/
def passedFrom (i : Nat) : List Argument → List Bytes
  | [] => []
  | a :: rest => (a.name ++ ".to_argument(" ++ decimal i ++ ")") :: passedFrom (i + 1) rest

/-- The statements of the method for a procedure. -/
def methodBody (setup : Setup) (service procedure : Bytes) (arguments : List Argument) :
    List Bytes :=
  let call : List Bytes :=
    ["let request = " ++ qualify setup.schemaPath "Request" ++ "::from(" ++ setup.clientPath ++
        "::proc_call(",
      "\t" ++ literal service ++ ",",
      "\t" ++ literal procedure ++ ",",
      "\tvec![" ++ Bytes.join ", " (passedFrom 0 arguments) ++ "],",
      "));",
      "",
      "let response = self.client.call(request);"]
  let debug : List Bytes := if setup.debugResponses then ["dbg!(&response);"] else []
  let answer : List Bytes := ["", "response.into()"]
  call ++ debug ++ answer

/-- The method for a procedure of a service. -/
def method (setup : Setup) (service : Bytes) (p : Procedure) : Function :=
  let arguments := methodArguments setup p
  { name := Name.memberIdent p.name
    visibility := "pub"
    borrowsSelf := true
    arguments
    result := typeText setup.servicesPath p.result
    body := methodBody setup service p.name arguments }

/-- The procedures of a service that get a method. -/
def bound (s : Service) : List Procedure := s.procedures.filter fun p => Name.isTypeStyle p.name

/-- The functions of a service's structure. -/
def functions (setup : Setup) (s : Service) : List Function :=
  constructor setup :: (bound s).map (method setup s.name)

/-! ## Name collisions -/

/-- The warning about a method whose name is taken: by the method for the procedure `owner`, or by
the function that makes the structure when there is none. -/
def collision (s : Service) (procedure method : Bytes) (owner : Option Bytes) : Warning where
  code := Warning.methodNameCollision
  message := "procedure " ++ quote procedure ++ " maps to method " ++ quote method ++
    match owner with
    | none => Bytes.ofString ", which clashes with the constructor"
    | some other => ", which is already defined by " ++ quote other
  file := if s.file = [] then none else some s.file
  service := s.name

/-- The warnings about methods whose name is taken already.  `taken` gives the names taken so far
with the first procedure that took each. -/
def collisionsFrom (s : Service) (taken : List (Bytes × Option Bytes)) :
    List Procedure → List Warning
  | [] => []
  | p :: rest =>
      let name := Name.memberIdent p.name
      match taken.lookup name with
      | some owner => collision s p.name name owner :: collisionsFrom s taken rest
      | none => collisionsFrom s ((name, some p.name) :: taken) rest

/-- The warnings about methods of a service whose name is taken already. -/
def collisions (s : Service) : List Warning := collisionsFrom s [(constructorName, none)] (bound s)

/-! ## Modules -/

/-- The module of a service. -/
def module (setup : Setup) (s : Service) : Item :=
  let name := Name.typeStyle s.name
  let handle : Item := .struct "pub" name [⟨"pub", "client", setup.clientType⟩]
  let classes := s.classes.map (classDirective setup.schemaPath)
  let enums := s.enumerations.map fun e => enumDirective setup.schemaPath e.name e.values
  .module "pub" (Name.memberIdent s.name) [qualify setup.schemaPath "ToArgument"]
    (handle :: (classes ++ enums ++ [.implementation name (functions setup s)]))

/-- How many procedures of a service have no method. -/
def skipped (s : Service) : Nat := s.procedures.length - (bound s).length

end RpcBindings.Binding
