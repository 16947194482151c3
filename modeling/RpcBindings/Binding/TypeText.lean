import RpcBindings.Code.Item
import RpcBindings.Name.Keyword
import RpcBindings.Service.Type

/-!
# Types in code (SPEC §4.2)

The Rust type for the type of a parameter or a result.  A class is reached through the module of the
service that owns it, under the path where all service modules live.  A type about which nothing is
known has no text.
-/

set_option autoImplicit false

namespace RpcBindings

/-- The Rust type of a primitive. -/
def Primitive.rust : Primitive → Bytes
  | .string => "String"
  | .sint32 => "i32"
  | .bool => "bool"
  | .float => "f32"
  | .double => "f64"

namespace Binding

mutual

/-- The Rust type of a type; `servicesPath` is where the modules of services live. -/
def typeText (servicesPath : Bytes) : ServiceType → Bytes
  | .void => []
  | .primitive p => p.rust
  | .unknown _ => []
  | .tuple elements => "(" ++ Bytes.join ", " (typeTexts servicesPath elements) ++ ")"
  | .list element => "Vec<" ++ typeText servicesPath element ++ ">"
  | .reference service name =>
      Code.qualify servicesPath (Name.memberIdent service ++ "::" ++ name)

/-- The Rust types of types. -/
def typeTexts (servicesPath : Bytes) : List ServiceType → List Bytes
  | [] => []
  | t :: ts => typeText servicesPath t :: typeTexts servicesPath ts

end

end Binding

end RpcBindings
