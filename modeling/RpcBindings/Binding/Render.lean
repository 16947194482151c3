import RpcBindings.Binding.Module
import RpcBindings.Code.Layout
import RpcBindings.Schema.Basic

/-!
# Rendering a schema (SPEC §4.3, §4.4)

The modules of all services in one text, in the order of the schema, with the frontmatter before
them.  The warnings are those of the schema, then those about services declared twice, then those of
each module.
-/

set_option autoImplicit false

namespace RpcBindings.Binding

/-- How much was bound, and what was noticed. -/
structure Tally where
  services : Nat
  procedures : Nat
  skipped : Nat
  warnings : List Warning
  deriving DecidableEq, Repr, Inhabited

/-- The items of a schema's bindings. -/
def items (setup : Setup) (s : Schema) : List Code.Item :=
  let front : List Code.Item :=
    if setup.frontmatter = [] then [] else [.raw setup.frontmatter]
  front ++ s.services.map (module setup)

/-- The bindings of a schema as text. -/
def text (setup : Setup) (s : Schema) : Bytes := Code.render setup.width (items setup s)

/-- What binding a schema amounts to. -/
def tally (s : Schema) : Tally where
  services := s.services.length
  procedures := (s.services.flatMap bound).length
  skipped := s.services.foldl (fun n service => n + skipped service) 0
  warnings := s.warnings ++ s.duplicates ++ s.services.flatMap collisions

end RpcBindings.Binding
