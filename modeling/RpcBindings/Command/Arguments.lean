import RpcBindings.Command.Flag
import RpcBindings.File.Disk
import RpcBindings.Text.CaseMap

/-!
# Arguments (SPEC §10)

A command line is read from the left.  A flag may be written in full, with its value behind an equals
sign or as the next argument, or as a letter, with other letters or its value directly behind it.
After two hyphens alone everything counts as it stands.  The first argument that is no flag names the
command, and the next the schema directory.
-/

set_option autoImplicit false

namespace RpcBindings.Command

open RpcBindings.File (Disk)

/-- What a command line says. -/
structure Arguments where
  help : Bool
  verbose : Bool
  verb : Option Verb
  schemaDir : Option Bytes
  out : Bytes
  pattern : Bytes
  servicesPath : Bytes
  clientPath : Bytes
  schemaPath : Bytes
  options : List Bytes
  debugResponses : Bool
  noFrontmatter : Bool
  strict : Bool
  deriving DecidableEq, Repr, Inhabited

namespace Arguments

/-- A command line that says nothing. -/
def empty : Arguments :=
  ⟨false, false, none, none, [], [], [], [], [], [], false, false, false⟩

/-- Sets a switch. -/
def setSwitch (a : Arguments) (f : Flag) (on : Bool) : Arguments :=
  match f with
  | .help => { a with help := on }
  | .verbose => { a with verbose := on }
  | .debugResponses => { a with debugResponses := on }
  | .noFrontmatter => { a with noFrontmatter := on }
  | .strict => { a with strict := on }
  | _ => a

/-- Sets a text. -/
def setText (a : Arguments) (f : Flag) (value : Bytes) : Arguments :=
  match f with
  | .out => { a with out := value }
  | .pattern => { a with pattern := value }
  | .servicesPath => { a with servicesPath := value }
  | .clientPath => { a with clientPath := value }
  | .schemaPath => { a with schemaPath := value }
  | .opt => { a with options := a.options ++ [value] }
  | _ => a

end Arguments

/-! ## Values -/

/-- The path from the root that an argument stands for. -/
def expandPath (d : Disk) (path : Bytes) : Bytes :=
  if Path.isAbsolute path then path else Path.absolute d.cwdPath path

/-- Adds a character to the first of some texts. -/
def consFirst (c : Char) : List (List Char) → List (List Char)
  | [] => [[c]]
  | part :: parts => (c :: part) :: parts

/-- The texts between commas, of which a backslash protects one; the last is left out when it is
empty.  A backslash that protects no comma stays. -/
def splitList : List Char → List (List Char)
  | [] => []
  | ['\\'] => [['\\']]
  | '\\' :: c :: rest =>
      if c = ',' then consFirst ',' (splitList rest)
      else consFirst '\\' (consFirst c (splitList rest))
  | c :: rest => if c = ',' then [] :: splitList rest else consFirst c (splitList rest)

/-- The switch that a text stands for, once it is in small letters. -/
def switchValue? (text : Bytes) : Option Bool :=
  if text ∈ ([Bytes.ofString "true", Bytes.ofString "1", Bytes.ofString "yes"] : List Bytes) then
    some true
  else if text ∈ ([Bytes.ofString "false", Bytes.ofString "0", Bytes.ofString "no"] : List Bytes)
  then some false
  else none

/-- The text looks like a flag: it starts with a hyphen and goes on. -/
def looksLikeFlag : Bytes → Bool
  | b :: _ :: _ => b == 0x2D
  | _ => false

/-- Gives a flag a value.  A value that is an argument of its own may not look like a flag. -/
def giveValue (d : Disk) (a : Arguments) (f : Flag) (separate : Bool) (value : Bytes) :
    Except UsageFault Arguments :=
  let text := Utf8.encode (Utf8.runes value)
  match f.kind with
  | .switch =>
      let small := Utf8.encode ((Utf8.runes value).map Text.toLower)
      match switchValue? small with
      | some on => .ok (a.setSwitch f on)
      | none => .error (.badSwitch f small)
  | .list =>
      let parts := (splitList (Utf8.runes value)).map Utf8.encode
      match parts.find? fun part => separate && looksLikeFlag part with
      | some part => .error (.noValue f (some part))
      | none => .ok (parts.foldl (fun a part => a.setText f part) a)
  | .text =>
      if separate && looksLikeFlag value then .error (.noValue f (some value))
      else .ok (a.setText f text)
  | .file =>
      if separate && looksLikeFlag value then .error (.noValue f (some value))
      else .ok (a.setText f (if value = [0x2D] then value else expandPath d text))

/-! ## Reading -/

/-- How far a command line has been read. -/
structure Progress where
  arguments : Arguments
  /-- The flag that waits for its value. -/
  waiting : Option Flag
  /-- No flags follow. -/
  flagsOver : Bool
  deriving DecidableEq, Repr, Inhabited

/-- Takes an argument that is no flag: a command, or its schema directory. -/
def takePlain (d : Disk) (p : Progress) (text : Bytes) : Except UsageFault Progress :=
  let a := p.arguments
  match a.verb, a.schemaDir with
  | none, _ =>
      match Verb.all.find? fun v => v.name = text with
      | some v => .ok { p with arguments := { a with verb := some v } }
      | none => .error (.unexpectedArgument text Verb.all)
  | some .version, _ => .error (.unexpectedArgument text [])
  | some _, some _ => .error (.unexpectedArgument text [])
  | some _, none =>
      let path := expandPath d (Utf8.encode (Utf8.runes text))
      match d.stat path with
      | .error fault => .error (.noDirectory fault)
      | .ok node =>
          if node.isFolder then .ok { p with arguments := { a with schemaDir := some path } }
          else .error (.notDirectory path)

/-- Takes a flag in its long form, without the hyphens. -/
def takeLong (d : Disk) (p : Progress) (text : Bytes) : Except UsageFault Progress :=
  let a := p.arguments
  let (name, value?) : Bytes × Option Bytes :=
    match Bytes.cut 0x3D text with
    | some (name, value) => (name, some value)
    | none => (text, none)
  let flags := Flag.available a.verb
  match flags.find? fun f => f.name = name with
  | none => .error (.unknownFlag ("--" ++ name) flags)
  | some f =>
      match value? with
      | some value =>
          match giveValue d a f false value with
          | .ok a => .ok { p with arguments := a }
          | .error e => .error e
      | none =>
          if f.kind = .switch then .ok { p with arguments := a.setSwitch f true }
          else .ok { p with waiting := some f }

/-- Takes flags in their short form, without the hyphen. -/
def takeShort (d : Disk) (p : Progress) : Bytes → Except UsageFault Progress
  | [] => .ok p
  | b :: rest =>
      let a := p.arguments
      let flags := Flag.available a.verb
      match flags.find? fun f => f.letter? = some b with
      | none => .error (.unknownFlag [0x2D, b] flags)
      | some f =>
          if f.kind = .switch then takeShort d { p with arguments := a.setSwitch f true } rest
          else if rest = [] then .ok { p with waiting := some f }
          else
            match giveValue d a f false rest with
            | .ok a => .ok { p with arguments := a }
            | .error e => .error e

/-- Takes one argument. -/
def take (d : Disk) (p : Progress) (text : Bytes) : Except UsageFault Progress :=
  match p.waiting with
  | some f =>
      match giveValue d p.arguments f true text with
      | .ok a => .ok { p with arguments := a, waiting := none }
      | .error e => .error e
  | none =>
      if p.flagsOver then takePlain d p text
      else if text = Bytes.ofString "--" then .ok { p with flagsOver := true }
      else
        match Bytes.after? "--" text with
        | some long => takeLong d p long
        | none =>
            match text with
            | 0x2D :: b :: rest => takeShort d p (b :: rest)
            | _ => takePlain d p text

/-- Takes arguments one after another. -/
def takeAll (d : Disk) (p : Progress) : List Bytes → Except UsageFault Progress
  | [] => .ok p
  | text :: rest =>
      match take d p text with
      | .ok p => takeAll d p rest
      | .error e => .error e

/-- What a command line asks for. -/
inductive Request where
  | help
  | version (verbose : Bool)
  | generate (verbose : Bool) (a : Arguments) (schemaDir : Bytes)
  | check (verbose : Bool) (a : Arguments) (schemaDir : Bytes)
  deriving DecidableEq, Repr, Inhabited

/-- What the arguments of a command line ask for. -/
def request (d : Disk) (args : List Bytes) : Except UsageFault Request :=
  match takeAll d ⟨Arguments.empty, none, false⟩ args with
  | .error e => .error e
  | .ok p =>
      let a := p.arguments
      match p.waiting with
      | some f => .error (.noValue f none)
      | none =>
          if a.help then .ok .help
          else
            match a.verb, a.schemaDir with
            | none, _ => .error .noVerb
            | some .version, _ => .ok (.version a.verbose)
            | some _, none => .error .noSchemaDir
            | some .generate, some dir => .ok (.generate a.verbose a dir)
            | some .check, some dir => .ok (.check a.verbose a dir)

end RpcBindings.Command
