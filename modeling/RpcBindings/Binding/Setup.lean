import RpcBindings.Text.Bytes

/-!
# Setup (SPEC §8)

What all bindings of a run share: the paths that the generated code refers to, and how it is laid
out.
-/

set_option autoImplicit false

namespace RpcBindings.Binding

/-- The paths the generated code refers to and its layout. -/
structure Setup where
  /-- Where the modules of services live. -/
  servicesPath : Bytes
  /-- The type of the client that carries calls. -/
  clientPath : Bytes
  /-- The module with the request type, the argument trait and the declaring macros. -/
  schemaPath : Bytes
  /-- How many spaces make a level; the default when it is not above zero. -/
  indentSize : Int
  /-- Every method shows the response it got. -/
  debugResponses : Bool
  /-- Text in front of the first module. -/
  frontmatter : Bytes
  deriving DecidableEq, Repr, Inhabited

namespace Setup

/-- How many spaces make a level unless something else is said. -/
def defaultIndent : Nat := 4

/-- The setup for the usual layout of the crate that takes the bindings up. -/
def default : Setup where
  servicesPath := "crate::services"
  clientPath := "crate::client::Client"
  schemaPath := "crate::schema"
  indentSize := defaultIndent
  debugResponses := false
  frontmatter := []

/-- A setup with nothing in it. -/
def empty : Setup where
  servicesPath := []
  clientPath := []
  schemaPath := []
  indentSize := 0
  debugResponses := false
  frontmatter := []

/-- How many spaces make a level. -/
def width (s : Setup) : Nat := if s.indentSize ≤ 0 then defaultIndent else s.indentSize.toNat

/-- The type of the handle through which a client is shared. -/
def clientType (s : Setup) : Bytes := "::std::sync::Arc<" ++ s.clientPath ++ ">"

end Setup

end RpcBindings.Binding
