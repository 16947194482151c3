import RpcBindings.Code.Item

/-!
# Layout (SPEC §4.3)

Code is laid out as lines, each with a level.  The layout does not know how wide a level is: the
width comes in only when the lines are printed, and an empty line has no indentation at all.

Neighbouring items have one empty line between them, except that macro calls in a row stay together.
-/

set_option autoImplicit false

namespace RpcBindings.Code

/-- A line of code at a level. -/
structure Line where
  level : Nat
  text : Bytes
  deriving DecidableEq, Repr, Inhabited

namespace Line

/-- A line at the outermost level. -/
def flush (text : Bytes) : Line := ⟨0, text⟩

/-- The empty line. -/
def blank : Line := flush []

/-- The line one level further in. -/
def deeper (l : Line) : Line := { l with level := l.level + 1 }

/-- The line as text, with `width` spaces for each level. -/
def print (width : Nat) (l : Line) : Bytes :=
  match l.text with
  | [] => [0x0A]
  | text => List.replicate (width * l.level) 0x20 ++ text ++ [0x0A]

end Line

/-- A statement: each tab at its start is a level. -/
def statement : Bytes → Line
  | [] => .blank
  | b :: rest => if b = 0x09 then (statement rest).deeper else .flush (b :: rest)

/-- A block: its head, its inner lines one level further in, and its closing brace. -/
def block (head : Bytes) (inner : List Line) : List Line :=
  .flush (head ++ " \x7b") :: (inner.map Line.deeper ++ [.flush "\x7d"])

/-- The lines of a function. -/
def Function.lines (f : Function) : List Line := block f.signature (f.body.map statement)

/-- The lines of functions, with an empty line between neighbours. -/
def functionLines : List Function → List Line
  | [] => []
  | [f] => f.lines
  | f :: g :: rest => f.lines ++ .blank :: functionLines (g :: rest)

/-- The lines of a text, without the empty ones at its end. -/
def rawLines (text : Bytes) : List Line :=
  (Bytes.split 0x0A (Bytes.dropTrailing 0x0A text)).map Line.flush

/-- The lines of a structure. -/
def structLines (visibility name : Bytes) (fields : List Field) : List Line :=
  let head : Bytes := visible visibility ++ "struct " ++ name
  match fields with
  | [] => [.flush (head ++ ";")]
  | fields => block head
      (fields.map fun f => .flush (visible f.visibility ++ f.name ++ ": " ++ f.type ++ ","))

/-- The lines that bring names into a module. -/
def useLines (uses : List Bytes) : List Line := uses.map fun u => .flush ("use " ++ u ++ ";")

/-- The empty line between what a module uses and what it declares, if it has both. -/
def gap (uses : List Bytes) (items : List Item) : List Line :=
  if uses.isEmpty || items.isEmpty then [] else [.blank]

mutual

/-- The lines of an item. -/
def Item.lines : Item → List Line
  | .raw text => rawLines text
  | .module visibility name uses items =>
      block (visible visibility ++ "mod " ++ name)
        (useLines uses ++ gap uses items ++ itemLines items)
  | .struct visibility name fields => structLines visibility name fields
  | .macroCall path arguments => [.flush (path ++ "!(" ++ Bytes.join ", " arguments ++ ");")]
  | .implementation target functions => block ("impl " ++ target) (functionLines functions)

/-- The lines of items. -/
def itemLines : List Item → List Line
  | [] => []
  | item :: rest => item.lines ++ itemLinesAfter item.isMacroCall rest

/-- The lines of items behind another, which was a macro call or not. -/
def itemLinesAfter (macroBefore : Bool) : List Item → List Line
  | [] => []
  | item :: rest =>
      (if macroBefore && item.isMacroCall then [] else [.blank]) ++
        item.lines ++ itemLinesAfter item.isMacroCall rest

end

/-- Items as text, with `width` spaces for each level. -/
def render (width : Nat) (items : List Item) : Bytes := (itemLines items).flatMap (Line.print width)

/-- Why code cannot be printed. -/
inductive LayoutFault where
  /-- The width of a level is below zero. -/
  | negativeWidth
  deriving DecidableEq, Repr, Inhabited

/-- The wording of a fault. -/
def LayoutFault.message : LayoutFault → Bytes
  | .negativeWidth => "strings: negative Repeat count"

/-- Items as text; there is none when the width of a level is below zero. -/
def render? (width : Int) (items : List Item) : Except LayoutFault Bytes :=
  match width with
  | .ofNat w => .ok (render w items)
  | .negSucc _ => .error .negativeWidth

end RpcBindings.Code
