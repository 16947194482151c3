import RpcBindings.Settings.Basic
import RpcBindings.Text.Numeral
import RpcBindings.Text.Quoted
import RpcBindings.Text.Trim

/-!
# Options (SPEC §8)

Settings can be given as one text of pairs `key=value` with commas between them.  Blanks around keys,
values and pairs do not count, nor do empty pairs.  A key may be written in any case; of several
pairs with a key of one spelling the last counts.  An empty value leaves a text as it is, but sets a
number to zero and a switch to off.
-/

set_option autoImplicit false

namespace RpcBindings

/-- What options say; what they leave out is empty or absent. -/
structure Options where
  servicesPath : Bytes
  clientPath : Bytes
  schemaPath : Bytes
  outputFile : Bytes
  pattern : Bytes
  indentSize : Option Int
  debugResponses : Option Bool
  frontmatter : Option Bool
  deriving DecidableEq, Repr, Inhabited

namespace Options

/-- Options that say nothing. -/
def empty : Options := ⟨[], [], [], [], [], none, none, none⟩

/-! ## Keys -/

/-- What an option sets. -/
inductive Key where
  | servicesPath
  | clientPath
  | schemaPath
  | outputFile
  | pattern
  | indentSize
  | debugResponses
  | frontmatter
  deriving DecidableEq, Repr, Inhabited

/-- The spelling of a key. -/
def Key.name : Key → String
  | .servicesPath => "services_path"
  | .clientPath => "client_path"
  | .schemaPath => "schema_path"
  | .outputFile => "output_file"
  | .pattern => "pattern"
  | .indentSize => "indent_size"
  | .debugResponses => "debug_responses"
  | .frontmatter => "frontmatter"

/-- All keys. -/
def keys : List Key :=
  [.servicesPath, .clientPath, .schemaPath, .outputFile, .pattern, .indentSize, .debugResponses,
   .frontmatter]

/-- The small ASCII letter that a character equals when case does not count: besides the capitals
that is so of the long s and of the sign for Kelvin.  Other characters stay. -/
def foldCase (c : Char) : Char :=
  if 'A' ≤ c ∧ c ≤ 'Z' then Char.ofNat (c.toNat + 0x20)
  else if c.toNat = 0x17F then 's'
  else if c.toNat = 0x212A then 'k'
  else c

/-- The key that a text spells, in any case. -/
def key? (text : Bytes) : Option Key :=
  keys.find? fun k => (Utf8.runes text).map foldCase = k.name.toList

/-! ## Faults -/

/-- What can be wrong with an option. -/
inductive Objection where
  | unknownKey
  | badValue
  deriving DecidableEq, Repr, Inhabited

/-- An option that is wrong, with its key as it was spelled. -/
structure Fault where
  key : Bytes
  objection : Objection
  deriving DecidableEq, Repr, Inhabited

/-- The wording of a fault. -/
def Fault.message (f : Fault) : Bytes :=
  match f.objection with
  | .unknownKey => "schema: invalid path " ++ quote f.key
  | .badValue => "schema: error converting value for " ++ quote f.key

/-- The wording of several faults: the first of them and how many others there are. -/
def faultsMessage : List Fault → Bytes
  | [] => "(0 errors)"
  | [f] => f.message
  | [f, _] => f.message ++ " (and 1 other error)"
  | f :: rest => f.message ++ " (and " ++ decimal rest.length ++ " other errors)"

/-! ## Values -/

/-- A number with one more digit behind it. -/
def addDigit (n : Option Nat) (b : UInt8) : Option Nat :=
  match n with
  | some n => if 0x30 ≤ b ∧ b ≤ 0x39 then some (n * 10 + (b.toNat - 0x30)) else none
  | none => none

/-- The number that digits spell, most significant first. -/
def digitsValue? (bs : Bytes) : Option Nat :=
  if bs.isEmpty then none else bs.foldl addDigit (some 0)

/-- The number of values that 64 bits hold on either side of zero. -/
def integerBound : Nat := 0x8000000000000000

/-- The whole number that a text spells, with a sign or without, if 64 bits hold it. -/
def integer? (bs : Bytes) : Option Int :=
  match bs with
  | [] => none
  | b :: rest =>
      if b = 0x2D then
        match digitsValue? rest with
        | some n => if n ≤ integerBound then some (-(n : Int)) else none
        | none => none
      else
        match digitsValue? (if b = 0x2B then rest else bs) with
        | some n => if n < integerBound then some (n : Int) else none
        | none => none

/-- The texts that switch on. -/
def onWords : List Bytes := ["1", "t", "T", "TRUE", "true", "True", "on"]

/-- The texts that switch off. -/
def offWords : List Bytes := ["0", "f", "F", "FALSE", "false", "False"]

/-- The switch that a text spells. -/
def switch? (bs : Bytes) : Option Bool :=
  if bs ∈ onWords then some true
  else if bs ∈ offWords then some false
  else none

/-- Sets what a key stands for; `none` when the value does not fit. -/
def set? (o : Options) (k : Key) (value : Bytes) : Option Options :=
  match k with
  | .servicesPath => some { o with servicesPath := value }
  | .clientPath => some { o with clientPath := value }
  | .schemaPath => some { o with schemaPath := value }
  | .outputFile => some { o with outputFile := value }
  | .pattern => some { o with pattern := value }
  | .indentSize =>
      if value = [] then some { o with indentSize := some 0 }
      else (integer? value).map fun n => { o with indentSize := some n }
  | .debugResponses =>
      if value = [] then some { o with debugResponses := some false }
      else (switch? value).map fun b => { o with debugResponses := some b }
  | .frontmatter =>
      if value = [] then some { o with frontmatter := some false }
      else (switch? value).map fun b => { o with frontmatter := some b }

/-! ## Pairs -/

/-- The pairs of a text, or the first piece that is no pair. -/
def pairs : List Bytes → Except Bytes (List (Bytes × Bytes))
  | [] => .ok []
  | piece :: rest =>
      let text := trim piece
      if text = [] then pairs rest
      else
        match Bytes.cut 0x3D text with
        | none => .error text
        | some (key, value) =>
            match pairs rest with
            | .error e => .error e
            | .ok ps => .ok ((trim key, trim value) :: ps)

/-- The pairs whose key does not come again. -/
def latest : List (Bytes × Bytes) → List (Bytes × Bytes)
  | [] => []
  | p :: rest => if rest.any (·.1 = p.1) then latest rest else p :: latest rest

/-- The fault of a pair, if it has one. -/
def pairFault? (p : Bytes × Bytes) : Option Fault :=
  match key? p.1 with
  | none => some ⟨p.1, .unknownKey⟩
  | some k =>
      match empty.set? k p.2 with
      | none => some ⟨p.1, .badValue⟩
      | some _ => none

/-- Takes a pair over, unless it is wrong. -/
def addPair (o : Options) (p : Bytes × Bytes) : Options :=
  match key? p.1 with
  | none => o
  | some k => (o.set? k p.2).getD o

/-- Why options cannot be read. -/
inductive Refusal where
  /-- A piece has no equals sign. -/
  | notPair (text : Bytes)
  /-- Some options are wrong. -/
  | faults (fs : List Fault)
  deriving DecidableEq, Repr, Inhabited

/-- The options that a text gives.  Faults are in increasing order of their keys. -/
def parse (text : Bytes) : Except Refusal Options :=
  match pairs (Bytes.split 0x2C text) with
  | .error piece => .error (.notPair piece)
  | .ok ps =>
      match Bytes.sortOn Fault.key ((latest ps).filterMap pairFault?) with
      | [] => .ok ((latest ps).foldl addPair empty)
      | fs => .error (.faults fs)

/-- Settings changed by all that the options say. -/
def apply (o : Options) (s : Settings) : Settings :=
  { s with
    servicesPath := Settings.orElse o.servicesPath s.servicesPath
    clientPath := Settings.orElse o.clientPath s.clientPath
    schemaPath := Settings.orElse o.schemaPath s.schemaPath
    outputFile := Settings.orElse o.outputFile s.outputFile
    pattern := Settings.orElse o.pattern s.pattern
    indentSize := o.indentSize.getD s.indentSize
    debugResponses := o.debugResponses.getD s.debugResponses
    noFrontmatter := (o.frontmatter.map not).getD s.noFrontmatter }

end Options

end RpcBindings
