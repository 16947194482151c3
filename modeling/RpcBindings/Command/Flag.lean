import RpcBindings.Command.Distance
import RpcBindings.File.Fault
import RpcBindings.Text.Quoted

/-!
# Flags (SPEC §10)

The commands and their flags as they are spelled, and what can be wrong with a command line.
-/

set_option autoImplicit false

namespace RpcBindings.Command

/-- The commands. -/
inductive Verb where
  | version
  | generate
  | check
  deriving DecidableEq, Repr, Inhabited

namespace Verb

/-- The spelling of a command. -/
def name : Verb → Bytes
  | .version => "version"
  | .generate => "gen"
  | .check => "check"

/-- All commands. -/
def all : List Verb := [.version, .generate, .check]

end Verb

/-- The flags. -/
inductive Flag where
  | help
  | verbose
  | out
  | pattern
  | servicesPath
  | clientPath
  | schemaPath
  | opt
  | debugResponses
  | noFrontmatter
  | strict
  deriving DecidableEq, Repr, Inhabited

/-- What a flag takes. -/
inductive FlagKind where
  | switch
  | text
  | file
  /-- Several texts, with commas between them. -/
  | list
  deriving DecidableEq, Repr, Inhabited

namespace Flag

/-- The spelling of a flag. -/
def name : Flag → Bytes
  | .help => "help"
  | .verbose => "verbose"
  | .out => "out"
  | .pattern => "pattern"
  | .servicesPath => "services-path"
  | .clientPath => "client-path"
  | .schemaPath => "schema-path"
  | .opt => "opt"
  | .debugResponses => "debug-responses"
  | .noFrontmatter => "no-frontmatter"
  | .strict => "strict"

/-- The one-letter spelling of a flag. -/
def letter? : Flag → Option UInt8
  | .help => some 0x68
  | .verbose => some 0x76
  | .out => some 0x6F
  | _ => none

/-- What a flag takes. -/
def kind : Flag → FlagKind
  | .out => .file
  | .pattern | .servicesPath | .clientPath | .schemaPath => .text
  | .opt => .list
  | _ => .switch

/-- The long form of a flag. -/
def long (f : Flag) : Bytes := "--" ++ f.name

/-- The forms of a flag, the long one first. -/
def forms (f : Flag) : List Bytes := f.long :: (f.letter?.map fun b => [0x2D, b]).toList

/-- The flags that can be given, before a command or after it. -/
def available : Option Verb → List Flag
  | none | some .version => [.help, .verbose]
  | some .generate =>
      [.help, .verbose, .out, .pattern, .servicesPath, .clientPath, .schemaPath, .opt,
        .debugResponses, .noFrontmatter]
  | some .check => [.help, .verbose, .pattern, .strict]

end Flag

/-! ## Faults -/

/-- What can be wrong with a command line. -/
inductive UsageFault where
  | unknownFlag (spelled : Bytes) (flags : List Flag)
  | unexpectedArgument (text : Bytes) (verbs : List Verb)
  /-- A flag is followed by something that is no value for it, or by nothing. -/
  | noValue (flag : Flag) (got : Option Bytes)
  /-- A switch is given a value that is neither on nor off. -/
  | badSwitch (flag : Flag) (value : Bytes)
  /-- The schema directory cannot be looked up. -/
  | noDirectory (fault : File.Fault)
  /-- The schema directory is no directory. -/
  | notDirectory (path : Bytes)
  | noVerb
  | noSchemaDir
  deriving DecidableEq, Repr, Inhabited

namespace UsageFault

/-- The candidate may be what was meant: it starts with what was written, or is at most two edits
away from it. -/
def isClose (written candidate : Bytes) : Bool :=
  (Bytes.after? written candidate).isSome || distance candidate written ≤ 2

/-- A message with the candidates that may have been meant. -/
def suggest (message written : Bytes) (candidates : List Bytes) : Bytes :=
  match (candidates.filter (isClose written)).map quote with
  | [] => message
  | [one] => message ++ ", did you mean " ++ one ++ "?"
  | several => message ++ ", did you mean one of " ++ Bytes.join ", " several ++ "?"

/-- The word for the argument that names the schema directory. -/
def schemaDirWord : Bytes := "<schema-dir>"

/-- What a flag asks for. -/
def wanted : FlagKind → Bytes
  | .file => "file"
  | _ => "string"

/-- The kind of flag that an argument looks like. -/
def looks (text : Bytes) : Bytes :=
  if (Bytes.after? "--" text).isSome then "long flag" else "short flag"

/-- The wording of a missing value. -/
def noValueMessage (flag : Flag) : Option Bytes → Bytes
  | none =>
      if flag.kind = .list then flag.long ++ ": missing value, expecting \"<arg>,...\""
      else flag.long ++ ": expected " ++ wanted flag.kind ++ " value but got \"EOL\" (<EOL>)"
  | some text =>
      flag.long ++ ": expected " ++ wanted flag.kind ++ " value but got " ++ quote text ++ " (" ++
        looks text ++ "); perhaps try " ++ flag.long ++ "=" ++ quote text ++ "?"

/-- The wording of a fault. -/
def message : UsageFault → Bytes
  | .unknownFlag spelled flags =>
      suggest ("unknown flag " ++ spelled) spelled (flags.flatMap Flag.forms)
  | .unexpectedArgument text verbs =>
      suggest ("unexpected argument " ++ text) text (verbs.map Verb.name)
  | .noValue flag got => noValueMessage flag got
  | .badSwitch flag value =>
      flag.long ++ ": bool value must be true, 1, yes, false, 0 or no but got " ++ quote value
  | .noDirectory fault => schemaDirWord ++ ": " ++ fault.message
  | .notDirectory path => schemaDirWord ++ ": " ++ quote path ++ " exists but is not a directory"
  | .noVerb => "expected one of " ++ Bytes.join ", " (Verb.all.map fun v => quote v.name)
  | .noSchemaDir => "expected " ++ quote schemaDirWord

end UsageFault

end RpcBindings.Command
