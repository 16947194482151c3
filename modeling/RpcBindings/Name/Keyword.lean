import RpcBindings.Name.Style

/-!
# Keywords of Rust (SPEC §4.1)

A name that is a keyword cannot be an identifier as it stands.  Most keywords may be written as raw
identifiers; the four that name a place in the module tree may not, and get an underscore behind
them.
-/

set_option autoImplicit false

namespace RpcBindings.Name

/-- The keywords that can be raw identifiers. -/
def reservedWords : List Bytes :=
  List.map Bytes.ofString
  ["abstract", "as", "async", "await", "become", "box", "break", "const", "continue", "do", "dyn",
   "else", "enum", "extern", "false", "final", "fn", "for", "gen", "if", "impl", "in", "let",
   "loop", "macro", "match", "mod", "move", "mut", "override", "priv", "pub", "ref", "return",
   "static", "struct", "trait", "true", "try", "type", "typeof", "unsafe", "unsized", "use",
   "virtual", "where", "while", "yield"]

/-- The keywords that cannot be raw identifiers. -/
def pathKeywords : List Bytes := ["self", "Self", "super", "crate"]

/-- A name made usable as an identifier where it is a keyword. -/
def escapeKeyword (name : Bytes) : Bytes :=
  if name ∈ pathKeywords then name ++ "_"
  else if name ∈ reservedWords then "r#" ++ name
  else name

/-- The identifier of a module, function or argument. -/
def memberIdent (name : Bytes) : Bytes :=
  match memberStyle name with
  | [] => "_"
  | ident => escapeKeyword ident

end RpcBindings.Name
