import Mathlib.Tactic.SplitIfs
import RpcBindings.Code.Layout

/-!
# Printing in one pass (SPEC §4.3)

Code can be printed without laying it out first: a printer writes line after line and keeps the
level it stands at.  A block raises the level behind its opening brace and lowers it again before the
closing one, and a statement does so with its tabs.  Such a printer writes the lines of the layout,
each further in by the level it began at, and stands at that level again when it is done.  So both
give the same text, and the width decides nothing but how many blanks a level is.
-/

set_option autoImplicit false

namespace RpcBindings.Code

/-- The line `n` levels further in. -/
def Line.inward (n : Nat) (l : Line) : Line := { l with level := l.level + n }

/-! ## The printer -/

/-- A printer: the blanks that make a level, the level it stands at, and what it has written. -/
structure Printer where
  width : Nat
  level : Nat
  out : Bytes
  deriving DecidableEq, Repr, Inhabited

namespace Printer

/-- Writes text as it is. -/
def write (text : Bytes) : StateM Printer Unit :=
  modify fun p => { p with out := p.out ++ text }

/-- Goes further in by `n` levels. -/
def raise (n : Nat) : StateM Printer Unit := modify fun p => { p with level := p.level + n }

/-- Comes back by `n` levels. -/
def lower (n : Nat) : StateM Printer Unit := modify fun p => { p with level := p.level - n }

/-- Does something `n` levels further in. -/
def further (n : Nat) (inner : StateM Printer Unit) : StateM Printer Unit := do
  raise n
  inner
  lower n

/-- Writes the blanks of the level it stands at, one level after another. -/
def indent : StateM Printer Unit := do
  let p ← get
  (List.replicate p.level (List.replicate p.width 0x20)).forM write

/-- Writes a line; an empty one has no blanks. -/
def line (text : Bytes) : StateM Printer Unit :=
  match text with
  | [] => write [0x0A]
  | text => do
      indent
      write text
      write [0x0A]

/-- Writes a statement without the tabs at its start, as many levels further in as there are. -/
def statement (text : Bytes) : StateM Printer Unit :=
  let depth := (text.takeWhile (· = 0x09)).length
  further depth (line (text.drop depth))

/-- Writes a block, with `inner` one level further in. -/
def block (head : Bytes) (inner : StateM Printer Unit) : StateM Printer Unit := do
  line (head ++ " \x7b")
  further 1 inner
  line "\x7d"

/-- Writes a function. -/
def function (f : Function) : StateM Printer Unit := block f.signature (f.body.forM statement)

/-- Writes functions, and an empty line before each but the first. -/
def functions : List Function → StateM Printer Unit
  | [] => pure ()
  | f :: rest => do
      function f
      rest.forM fun g => do
        line []
        function g

/-- Writes a field of a structure. -/
def field (f : Field) : StateM Printer Unit :=
  line (visible f.visibility ++ f.name ++ ": " ++ f.type ++ ",")

/-- Writes the empty line between what a module uses and what it declares, if it has both. -/
def part (uses : List Bytes) (declared : List Item) : StateM Printer Unit :=
  if !uses.isEmpty && !declared.isEmpty then line [] else pure ()

/-- Writes the empty line between an item and the one before it, if there is one; macro calls stay
together. -/
def separate (before : Option Item) (item : Item) : StateM Printer Unit :=
  match before with
  | none => pure ()
  | some b => if b.isMacroCall && item.isMacroCall then pure () else line []

mutual

/-- Writes an item. -/
def item : Item → StateM Printer Unit
  | .raw text => (Bytes.split 0x0A (Bytes.dropTrailing 0x0A text)).forM line
  | .module visibility name uses declared =>
      block (visible visibility ++ "mod " ++ name) do
        uses.forM fun u => line ("use " ++ u ++ ";")
        part uses declared
        items none declared
  | .struct visibility name fields =>
      if fields.isEmpty then line (visible visibility ++ "struct " ++ name ++ ";")
      else block (visible visibility ++ "struct " ++ name) (fields.forM field)
  | .macroCall path arguments => line (path ++ "!(" ++ Bytes.join ", " arguments ++ ");")
  | .implementation target declared => block ("impl " ++ target) (functions declared)

/-- Writes items behind another, if there is one. -/
def items (before : Option Item) : List Item → StateM Printer Unit
  | [] => pure ()
  | next :: rest => do
      separate before next
      item next
      items (some next) rest

end

/-! ## What an action writes -/

/-- The printer after it has written these lines, counted from the level it stands at. -/
def after (p : Printer) (lines : List Line) : Printer :=
  { p with out := p.out ++ lines.flatMap fun l => (l.inward p.level).print p.width }

/-- Whatever was written before and wherever the printer stands, the action writes these lines from
there on and leaves the printer at the level it found it at. -/
def Writes (a : StateM Printer Unit) (lines : List Line) : Prop :=
  ∀ p : Printer, a.run p = pure ((), p.after lines)

theorem after_append (p : Printer) (xs ys : List Line) :
    (p.after xs).after ys = p.after (xs ++ ys) := by
  simp [after]

section

variable {a b : StateM Printer Unit} {xs ys : List Line}

theorem writes_pure : Writes (pure ()) [] := by
  intro p
  simp [after]

theorem Writes.bind (ha : Writes a xs) (hb : Writes b ys) : Writes (do a; b) (xs ++ ys) := by
  intro p
  rw [StateT.run_bind, ha, pure_bind, hb, after_append]

theorem Writes.further (ha : Writes a xs) (n : Nat) :
    Writes (further n a) (xs.map (Line.inward n)) := by
  intro p
  -- What is written in between starts from the raised level; coming back undoes exactly the raise.
  have hraise : (raise n).run p = pure ((), { p with level := p.level + n }) := rfl
  have hlower : ∀ q : Printer, (lower n).run q = pure ((), { q with level := q.level - n }) :=
    fun _ => rfl
  rw [Printer.further, StateT.run_bind, hraise, pure_bind, StateT.run_bind, ha, pure_bind, hlower]
  simp [after, Line.inward, List.flatMap_map, Nat.add_comm, Nat.add_left_comm]

theorem Writes.forM {α : Type} {f : α → StateM Printer Unit} {lines : α → List Line}
    (h : ∀ x, Writes (f x) (lines x)) (items : List α) :
    Writes (items.forM f) (items.flatMap lines) := by
  induction items with
  | nil => exact writes_pure
  | cons x items ih => exact (h x).bind ih

/-- One line for each of several things. -/
theorem Writes.each {α : Type} {f : α → StateM Printer Unit} {toLine : α → Line}
    (h : ∀ x, Writes (f x) [toLine x]) (items : List α) :
    Writes (items.forM f) (items.map toLine) := by
  rw [List.map_eq_flatMap]
  exact Writes.forM h items

end

/-! ## Lines and blocks -/

theorem write_run (text : Bytes) (p : Printer) :
    (write text).run p = pure ((), { p with out := p.out ++ text }) := rfl

theorem forM_write_run (texts : List Bytes) (p : Printer) :
    (texts.forM write).run p = pure ((), { p with out := p.out ++ texts.flatten }) := by
  induction texts generalizing p with
  | nil => simp
  | cons text texts ih =>
      have hcons : (text :: texts).forM write = (do write text; texts.forM write) := rfl
      rw [hcons, StateT.run_bind, write_run, pure_bind, ih, List.flatten_cons, List.append_assoc]

theorem indent_run (p : Printer) : indent.run p =
    pure ((), { p with out := p.out ++ List.replicate (p.width * p.level) 0x20 }) := by
  have hrun : indent.run p =
      ((List.replicate p.level (List.replicate p.width 0x20)).forM write).run p := rfl
  rw [hrun, forM_write_run, List.flatten_replicate_replicate, Nat.mul_comm]

theorem line_writes (text : Bytes) : Writes (line text) [.flush text] := by
  intro p
  cases text with
  | nil => rfl
  | cons b text =>
      have hline : line (b :: text) = (do indent; write (b :: text); write [0x0A]) := rfl
      rw [hline, StateT.run_bind, indent_run, pure_bind, StateT.run_bind, write_run, pure_bind,
        write_run]
      simp [after, Line.inward, Line.flush, Line.print]

/-- Taking the tabs off one by one comes to the same as counting them first. -/
theorem statement_eq (text : Bytes) : Code.statement text =
    Line.inward (text.takeWhile (· = 0x09)).length
      (.flush (text.drop (text.takeWhile (· = 0x09)).length)) := by
  induction text with
  | nil => rfl
  | cons b text ih =>
      rw [Code.statement]
      split_ifs with hb
      · simp [hb, ih, Line.deeper, Line.inward, Line.flush]
      · simp [hb, Line.inward, Line.flush]

theorem statement_writes (text : Bytes) : Writes (statement text) [Code.statement text] := by
  rw [statement_eq]
  exact (line_writes _).further _

theorem block_writes {head : Bytes} {inner : StateM Printer Unit} {lines : List Line}
    (h : Writes inner lines) : Writes (block head inner) (Code.block head lines) :=
  (line_writes _).bind ((h.further 1).bind (line_writes _))

/-! ## Items -/

theorem function_writes (f : Function) : Writes (function f) f.lines :=
  block_writes (Writes.each statement_writes f.body)

theorem functionLines_cons (f : Function) (rest : List Function) :
    functionLines (f :: rest) = f.lines ++ rest.flatMap fun g => [.blank] ++ g.lines := by
  induction rest generalizing f with
  | nil => simp [functionLines]
  | cons g rest ih => simp [functionLines, ih]

theorem functions_writes (fs : List Function) : Writes (functions fs) (functionLines fs) := by
  cases fs with
  | nil => exact writes_pure
  | cons f rest =>
      rw [functionLines_cons]
      exact (function_writes f).bind
        (Writes.forM (fun g => (line_writes []).bind (function_writes g)) rest)

theorem part_writes (uses : List Bytes) (declared : List Item) :
    Writes (part uses declared) (gap uses declared) := by
  cases uses with
  | nil => exact writes_pure
  | cons u uses =>
      cases declared with
      | nil => exact writes_pure
      | cons first rest => exact line_writes []

theorem separate_writes (before next : Item) : Writes (separate (some before) next)
    (if before.isMacroCall && next.isMacroCall then [] else [.blank]) := by
  rw [separate]
  split_ifs
  · exact writes_pure
  · exact line_writes []

-- The induction is on the tree of items.  Only modules hold items, and these are written from the
-- level that the module's block has raised, so the statement is needed at every level at once.
mutual

/-- An item writes its lines and leaves the level as it was. -/
theorem item_writes : (next : Item) → Writes (item next) next.lines
  | .raw text => by
      rw [item, Item.lines]
      exact Writes.each line_writes _
  | .module visibility name uses declared => by
      rw [item, Item.lines]
      have huses : Writes (uses.forM fun u => line ("use " ++ u ++ ";")) (useLines uses) :=
        Writes.each (fun u => line_writes _) uses
      rw [List.append_assoc (useLines uses)]
      exact block_writes (huses.bind ((part_writes uses declared).bind (items_writes declared)))
  | .struct visibility name fields => by
      rw [item, Item.lines]
      cases fields with
      | nil => exact line_writes _
      | cons f fields => exact block_writes (Writes.each (fun f => line_writes _) (f :: fields))
  | .macroCall path arguments => by
      rw [item, Item.lines]
      exact line_writes _
  | .implementation target declared => by
      rw [item, Item.lines]
      exact block_writes (functions_writes declared)

/-- Items write their lines and leave the level as it was. -/
theorem items_writes : (declared : List Item) → Writes (items none declared) (itemLines declared)
  | [] => by
      rw [items, itemLines]
      exact writes_pure
  | next :: rest => by
      rw [items, itemLines]
      exact writes_pure.bind ((item_writes next).bind (items_after_writes next rest))

/-- Items behind another write their lines and leave the level as it was. -/
theorem items_after_writes : (before : Item) → (declared : List Item) →
    Writes (items (some before) declared) (itemLinesAfter before.isMacroCall declared)
  | before, [] => by
      rw [items, itemLinesAfter]
      exact writes_pure
  | before, next :: rest => by
      rw [items, itemLinesAfter, List.append_assoc]
      exact (separate_writes before next).bind
        ((item_writes next).bind (items_after_writes next rest))

end

/-- The items as text, printed in one pass from the outermost level on. -/
def text (width : Nat) (declared : List Item) : Bytes :=
  ((items none declared).run ⟨width, 0, []⟩).2.out

end Printer

/-! ## The layout -/

theorem print_eq (width : Nat) (l : Line) : l.print width =
    if l.text = [] then [0x0A]
    else List.replicate (width * l.level) 0x20 ++ l.text ++ [0x0A] := by
  unfold Line.print
  split
  · rename_i htext
    rw [if_pos htext]
  · rename_i htext
    rw [if_neg htext]

theorem render_eq_text (width : Nat) (items : List Item) :
    render width items = Printer.text width items := by
  rw [Printer.text, Printer.items_writes]
  rfl

example : Printer.text 2 [.implementation "A" [⟨"f", [], true, [], [], ["g(", "\t\ta", ")"]⟩]] =
    Bytes.ofString
      "impl A \x7b\n  fn f(&self) \x7b\n    g(\n        a\n    )\n  \x7d\n\x7d\n" := by
  decide

/-- The lines of a module: those of what it declares, one level further in, and the module's own. -/
theorem itemLines_module (visibility name : Bytes) (uses : List Bytes) (items : List Item) :
    itemLines [.module visibility name uses items] =
      ⟨0, visible visibility ++ "mod " ++ name ++ " \x7b"⟩ ::
        ((uses.map fun u => ⟨1, "use " ++ u ++ ";"⟩) ++
          (if uses.isEmpty || items.isEmpty then [] else [⟨1, []⟩]) ++
          ((itemLines items).map fun l => ⟨l.level + 1, l.text⟩) ++ [⟨0, "\x7d"⟩]) := by
  have hgap : (gap uses items).map Line.deeper =
      if uses.isEmpty || items.isEmpty then [] else [⟨1, []⟩] := by
    rw [gap]
    split_ifs <;> rfl
  rw [itemLines, itemLinesAfter, Item.lines, block, List.append_nil, List.map_append,
    List.map_append, hgap, useLines, List.map_map]
  rfl

theorem itemLinesAfter_append_cons (macroBefore : Bool) (before : List Item) (a b : Item)
    (rest : List Item) :
    itemLinesAfter macroBefore (before ++ a :: b :: rest) =
      itemLinesAfter macroBefore (before ++ [a]) ++
        (if a.isMacroCall && b.isMacroCall then [] else [.blank]) ++ itemLines (b :: rest) := by
  induction before generalizing macroBefore with
  | nil => simp [itemLinesAfter, itemLines]
  | cons x before ih => simp [itemLinesAfter, ih]

/-- What stands between neighbours depends on nothing but the two. -/
theorem itemLines_append_cons (before : List Item) (a b : Item) (rest : List Item) :
    itemLines (before ++ a :: b :: rest) =
      itemLines (before ++ [a]) ++
        (if a.isMacroCall && b.isMacroCall then [] else [.blank]) ++ itemLines (b :: rest) := by
  cases before with
  | nil => simp [itemLines, itemLinesAfter]
  | cons x before => simp [itemLines, itemLinesAfter_append_cons]

/-- Indentation carries no content.  The lines of items are levels and texts that the items alone
determine, and the text is these lines with the width times the level as blanks before each that is
not empty.  A printer that keeps a level in one pass over the items writes the same, and ends at the
level it started from.  A module puts its items one level further in and adds nothing but its head,
the lines for what it uses with an empty line behind them, and its closing brace.  Neighbours have
one empty line between them, unless both are macro calls. -/
theorem indentation_carries_no_content :
    (∀ (items : List Item) (width : Nat),
      render? width items = .ok ((itemLines items).flatMap fun l =>
        if l.text = [] then [0x0A]
        else List.replicate (width * l.level) 0x20 ++ l.text ++ [0x0A])) ∧
    (∀ (items : List Item) (width : Nat), render? width items = .ok (Printer.text width items)) ∧
    (∀ (items : List Item) (p : Printer), ((Printer.items none items).run p).2 =
      { p with
        out := p.out ++ (itemLines items).flatMap fun l =>
          Line.print p.width ⟨l.level + p.level, l.text⟩ }) ∧
    (∀ (visibility name : Bytes) (uses : List Bytes) (items : List Item),
      itemLines [.module visibility name uses items] =
        ⟨0, visible visibility ++ "mod " ++ name ++ " \x7b"⟩ ::
          ((uses.map fun u => ⟨1, "use " ++ u ++ ";"⟩) ++
            (if uses.isEmpty || items.isEmpty then [] else [⟨1, []⟩]) ++
            ((itemLines items).map fun l => ⟨l.level + 1, l.text⟩) ++ [⟨0, "\x7d"⟩])) ∧
    (∀ (before : List Item) (a b : Item) (rest : List Item),
      itemLines (before ++ a :: b :: rest) =
        itemLines (before ++ [a]) ++
          (if a.isMacroCall && b.isMacroCall then [] else [⟨0, []⟩]) ++
          itemLines (b :: rest)) := by
  refine ⟨?_, ?_, ?_, itemLines_module, itemLines_append_cons⟩
  · intro items width
    simp only [← print_eq]
    rfl
  · intro items width
    rw [← render_eq_text]
    rfl
  · intro items p
    rw [Printer.items_writes]
    rfl

end RpcBindings.Code
