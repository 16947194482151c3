import RpcBindings.Binding.Setup

/-!
# Settings (SPEC §8)

What a run is told: where the schema files are and which of them to read, where the bindings go, and
how they look.  Whatever is left empty has a default.
-/

set_option autoImplicit false

namespace RpcBindings

/-- The settings of a run. -/
structure Settings where
  /-- The directory with the schema files. -/
  schemaDir : Bytes
  /-- A glob for the names of the schema files; all are read when it is empty. -/
  pattern : Bytes
  /-- The directory the output file is written to. -/
  outDir : Bytes
  /-- The output file, below the directory. -/
  outputFile : Bytes
  servicesPath : Bytes
  clientPath : Bytes
  schemaPath : Bytes
  indentSize : Int
  debugResponses : Bool
  frontmatter : Bytes
  /-- There is no frontmatter, not even the default one. -/
  noFrontmatter : Bool
  deriving DecidableEq, Repr, Inhabited

namespace Settings

/-- Settings with nothing in them. -/
def empty : Settings := ⟨[], [], [], [], [], [], [], 0, false, [], false⟩

/-- The output file unless another is named. -/
def defaultOutputFile : Bytes := "services.rs"

/-- The frontmatter unless another is given. -/
def defaultFrontmatter : Bytes := "// Code generated by krpcgen. DO NOT EDIT."

/-- The text, or another one where it is empty. -/
def orElse (text other : Bytes) : Bytes := if text = [] then other else text

/-- The settings with defaults for all that was left empty. -/
def withDefaults (s : Settings) : Settings :=
  { s with
    outputFile := orElse s.outputFile defaultOutputFile
    servicesPath := orElse s.servicesPath Binding.Setup.default.servicesPath
    clientPath := orElse s.clientPath Binding.Setup.default.clientPath
    schemaPath := orElse s.schemaPath Binding.Setup.default.schemaPath
    indentSize := if s.indentSize = 0 then Binding.Setup.default.indentSize else s.indentSize
    frontmatter := if s.noFrontmatter then [] else orElse s.frontmatter defaultFrontmatter }

/-- What the settings say about the generated code. -/
def setup (s : Settings) : Binding.Setup where
  servicesPath := s.servicesPath
  clientPath := s.clientPath
  schemaPath := s.schemaPath
  indentSize := s.indentSize
  debugResponses := s.debugResponses
  frontmatter := s.frontmatter

end Settings

end RpcBindings
