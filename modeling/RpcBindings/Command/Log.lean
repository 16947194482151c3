import RpcBindings.Generation.Run
import RpcBindings.Text.Quoted

/-!
# Log (SPEC §9)

Commands tell what they did as events: a level, a message and named fields.  Texts in events are
always valid UTF-8, as each stray byte is replaced.  On a terminal an event is one line, with its
fields in increasing order of their names and quotes around values that would be hard to read.
-/

set_option autoImplicit false

namespace RpcBindings.Command

open RpcBindings.Generation (Report)

/-- How much an event matters. -/
inductive Level where
  | debug
  | info
  | warn
  deriving DecidableEq, Repr, Inhabited

/-- The name of a level. -/
def Level.name : Level → Bytes
  | .debug => "debug"
  | .info => "info"
  | .warn => "warn"

/-- The mark of a level at the front of a line. -/
def Level.mark : Level → Bytes
  | .debug => "DBG"
  | .info => "INF"
  | .warn => "WRN"

/-- The value of a field. -/
inductive FieldValue where
  | text (bs : Bytes)
  | number (n : Nat)
  deriving DecidableEq, Repr, Inhabited

/-- Something worth telling. -/
structure Event where
  level : Level
  message : Bytes
  fields : List (Bytes × FieldValue)
  deriving DecidableEq, Repr, Inhabited

/-- A text with each stray byte replaced. -/
def legible (bs : Bytes) : Bytes := Utf8.encode (Utf8.runes bs)

/-- A field with a text. -/
def textField (name value : Bytes) : Bytes × FieldValue := (name, .text (legible value))

/-- A field with a number. -/
def numberField (name : Bytes) (value : Nat) : Bytes × FieldValue := (name, .number value)

/-! ## What a run tells -/

/-- The event for a file that was read. -/
def readEvent (file : Bytes) : Event := ⟨.debug, "read schema", [textField "file" file]⟩

/-- The event for a service that is referred to and not declared. -/
def externalEvent (service : Bytes) : Event :=
  ⟨.debug, "class references a service outside this run", [textField "service" service]⟩

/-- The event for a warning. -/
def warningEvent (w : Warning) : Event where
  level := .warn
  message := legible w.message
  fields :=
    textField "code" w.code ::
      ((if w.service = [] then [] else [textField "service" w.service]) ++
        (w.file.map (textField "file")).toList)

/-- The events of a run: the files that were read, the services that are missing, the warnings. -/
def reportEvents (r : Report) : List Event :=
  r.documents.map readEvent ++ r.external.map externalEvent ++ r.tally.warnings.map warningEvent

/-- The events that are shown; those for debugging only when `verbose` holds. -/
def shown (verbose : Bool) (events : List Event) : List Event :=
  events.filter fun e => verbose || e.level ≠ .debug

/-! ## Lines -/

/-- The text is quoted in a line: it has a blank, a quote, a backslash or a byte that is no ASCII
sign. -/
def needsQuotes (bs : Bytes) : Bool :=
  bs.any fun b => b ≤ 0x20 || b > 0x7E || b == 0x5C || b == 0x22

/-- A value in a line. -/
def FieldValue.print : FieldValue → Bytes
  | .text bs => if needsQuotes bs then quote bs else bs
  | .number n => decimal n

/-- A field in a line. -/
def printField (f : Bytes × FieldValue) : Bytes := f.1 ++ "=" ++ f.2.print

/-- An event as a line. -/
def Event.line (e : Event) : Bytes :=
  let fields := (Bytes.sortOn Prod.fst e.fields).map printField
  Bytes.join " " (([e.level.mark, e.message].filter fun part => part ≠ []) ++ fields)

end RpcBindings.Command
