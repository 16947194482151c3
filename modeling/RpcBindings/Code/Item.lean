import RpcBindings.Text.Bytes

/-!
# Code (SPEC §4.3)

The part of Rust that bindings consist of, as a tree: modules, structures, macro calls, blocks of
functions, and text that is taken as it is.  What stands in names, types and statements is text.
-/

set_option autoImplicit false

namespace RpcBindings.Code

/-- A field of a structure. -/
structure Field where
  visibility : Bytes
  name : Bytes
  type : Bytes
  deriving DecidableEq, Repr, Inhabited

/-- An argument of a function. -/
structure Argument where
  name : Bytes
  type : Bytes
  deriving DecidableEq, Repr, Inhabited

/-- A function.  Its result is empty when it has none; a tab at the start of a statement indents the
statement by one level more. -/
structure Function where
  name : Bytes
  visibility : Bytes
  borrowsSelf : Bool
  arguments : List Argument
  result : Bytes
  body : List Bytes
  deriving DecidableEq, Repr, Inhabited

/-- A declaration at the top of a file or in a module. -/
inductive Item where
  /-- Text that is taken as it is, line by line. -/
  | raw (text : Bytes)
  /-- A module with what it uses and what it declares. -/
  | module (visibility name : Bytes) (uses : List Bytes) (items : List Item)
  | struct (visibility name : Bytes) (fields : List Field)
  | macroCall (path : Bytes) (arguments : List Bytes)
  /-- The functions of a type. -/
  | implementation (target : Bytes) (functions : List Function)
  deriving Repr, Inhabited

/-- The item is a macro call. -/
def Item.isMacroCall : Item → Bool
  | .macroCall _ _ => true
  | _ => false

/-- A visibility with the blank behind it, or nothing when there is none. -/
def visible (visibility : Bytes) : Bytes :=
  match visibility with
  | [] => []
  | v => v ++ " "

/-- A name inside a path; the empty path leaves the name alone. -/
def qualify (path name : Bytes) : Bytes :=
  match path with
  | [] => name
  | p => p ++ "::" ++ name

/-- An argument with its type. -/
def Argument.text (a : Argument) : Bytes := a.name ++ ": " ++ a.type

/-- What a function takes, in its head. -/
def Function.parameters (f : Function) : List Bytes :=
  let own : List Bytes := if f.borrowsSelf then ["&self"] else []
  own ++ f.arguments.map Argument.text

/-- The head of a function, up to its body. -/
def Function.signature (f : Function) : Bytes :=
  let head : Bytes :=
    visible f.visibility ++ "fn " ++ f.name ++ "(" ++ Bytes.join ", " f.parameters ++ ")"
  match f.result with
  | [] => head
  | result => head ++ " -> " ++ result

end RpcBindings.Code
