import RpcBindings.Glob.Match
import RpcBindings.Path.Output
import RpcBindings.Settings.Basic
import RpcBindings.Settings.RustPath
import RpcBindings.Text.Numeral

/-!
# Valid settings (SPEC §8)

Settings are checked after their defaults are filled in.  Each field has at most one fault, and the
faults come in the order of the fields.
-/

set_option autoImplicit false

namespace RpcBindings.Settings

/-- The fields that can be wrong. -/
inductive Field where
  | schemaDir
  | pattern
  | outputFile
  | servicesPath
  | clientPath
  | schemaPath
  | indentSize
  deriving DecidableEq, Repr, Inhabited

/-- The name of a field. -/
def Field.name : Field → Bytes
  | .schemaDir => "SchemaDir"
  | .pattern => "Pattern"
  | .outputFile => "OutputFile"
  | .servicesPath => "ServicesPath"
  | .clientPath => "ClientPath"
  | .schemaPath => "SchemaPath"
  | .indentSize => "IndentSize"

/-- What can be wrong with a field. -/
inductive Objection where
  | required
  | notGlob (value : Bytes)
  | notOutputPath (value : Bytes)
  | notRustPath (value : Bytes)
  | tooSmall
  | tooLarge
  deriving DecidableEq, Repr, Inhabited

/-- The least indentation. -/
def minIndent : Nat := 1

/-- The greatest indentation. -/
def maxIndent : Nat := 16

/-- The wording of an objection. -/
def Objection.message : Objection → Bytes
  | .required => "required"
  | .notGlob value => quote value ++ " is not a valid glob pattern"
  | .notOutputPath value => quote value ++ " must be a clean relative path"
  | .notRustPath value => quote value ++ " is not a Rust path"
  | .tooSmall => "must be at least " ++ decimal minIndent
  | .tooLarge => "must be at most " ++ decimal maxIndent

/-- A field that is wrong. -/
structure FieldFault where
  field : Field
  objection : Objection
  deriving DecidableEq, Repr, Inhabited

/-- The wording of a fault. -/
def FieldFault.message (f : FieldFault) : Bytes := f.field.name ++ ": " ++ f.objection.message

/-- The pattern can be used, judged by matching it with the empty name. -/
def isGlob (pattern : Bytes) : Bool :=
  match Glob.matches? pattern [] with
  | .ok _ => true
  | .error _ => false

/-- The objection to a path of the generated code. -/
def rustPathObjection? (value : Bytes) : Option Objection :=
  if RustPath.isPath value then none else some (.notRustPath value)

/-- The objection to a field of settings that have their defaults. -/
def objection? (s : Settings) : Field → Option Objection
  | .schemaDir => if s.schemaDir = [] then some .required else none
  | .pattern => if s.pattern = [] ∨ isGlob s.pattern then none else some (.notGlob s.pattern)
  | .outputFile =>
      if (Path.outputFault? s.outputFile).isSome then some (.notOutputPath s.outputFile) else none
  | .servicesPath => rustPathObjection? s.servicesPath
  | .clientPath => rustPathObjection? s.clientPath
  | .schemaPath => rustPathObjection? s.schemaPath
  | .indentSize =>
      if s.indentSize < minIndent then some .tooSmall
      else if s.indentSize > maxIndent then some .tooLarge
      else none

/-- The fields that can be wrong, in their order. -/
def fields : List Field :=
  [.schemaDir, .pattern, .outputFile, .servicesPath, .clientPath, .schemaPath, .indentSize]

/-- All that is wrong with settings, once their defaults are filled in. -/
def faults (s : Settings) : List FieldFault :=
  fields.filterMap fun f => (s.withDefaults.objection? f).map fun o => ⟨f, o⟩

end RpcBindings.Settings
