import Mathlib.Tactic.SplitIfs
import RpcBindings.Binding.Render
import RpcBindings.Proofs.Code.Printing

/-!
# Bindings are put together from those of their parts (SPEC §4.3)

What stands between two items depends on nothing but these two: an empty line, unless both are macro
calls.  A module is no macro call, so the bindings of services in a row are the bindings of the first
ones, an empty line, and the bindings of the others.  Frontmatter is one more item in front.
-/

set_option autoImplicit false

namespace RpcBindings.Code

/-! ## Lines -/

theorem print_flush (width : Nat) (text : Bytes) :
    (Line.flush text).print width = text ++ [0x0A] := by
  cases text with
  | nil => rfl
  | cons b text => simp [Line.flush, Line.print]

/-- Cutting a text into lines and printing them ends its last line and changes nothing else. -/
theorem print_split (width : Nat) (text : Bytes) :
    ((Bytes.split 0x0A text).map Line.flush).flatMap (Line.print width) = text ++ [0x0A] := by
  induction text with
  | nil => rfl
  | cons b text ih =>
      rw [Bytes.split]
      split_ifs with hb
      · rw [List.map_cons, List.flatMap_cons, ih, print_flush, hb]
        rfl
      · cases hsplit : Bytes.split 0x0A text with
        | nil => exact absurd hsplit (Bytes.split_ne_nil 0x0A text)
        | cons part parts =>
            rw [hsplit, List.map_cons, List.flatMap_cons, print_flush] at ih
            dsimp only
            rw [List.map_cons, List.flatMap_cons, print_flush, List.cons_append, List.cons_append,
              ih]
            rfl

theorem render_raw (width : Nat) (text : Bytes) :
    render width [.raw text] = Bytes.dropTrailing 0x0A text ++ [0x0A] := by
  have hlines : itemLines [.raw text] = rawLines text := by
    simp [itemLines, itemLinesAfter, Item.lines]
  rw [render, hlines, rawLines, print_split]

/-! ## Items in a row -/

section

variable {item : Item} (hitem : item.isMacroCall = false)
include hitem

theorem itemLines_append {xs : List Item} (hxs : xs ≠ []) (ys : List Item) :
    itemLines (xs ++ item :: ys) = itemLines xs ++ .blank :: itemLines (item :: ys) := by
  obtain rfl | ⟨before, a, rfl⟩ := List.eq_nil_or_concat xs
  · exact absurd rfl hxs
  · have happend := itemLines_append_cons before a item ys
    simpa [hitem] using happend

/-- An item that is no macro call has an empty line before it, whatever stands there. -/
theorem render_append (width : Nat) {xs : List Item} (hxs : xs ≠ []) (ys : List Item) :
    render width (xs ++ item :: ys) = render width xs ++ [0x0A] ++ render width (item :: ys) := by
  have hblank : Line.blank.print width = [0x0A] := rfl
  rw [render, itemLines_append hitem hxs, List.flatMap_append, List.flatMap_cons, hblank,
    List.append_assoc]
  rfl

end

end RpcBindings.Code

namespace RpcBindings.Binding

/-! ## Bindings as text -/

/-- The setup without text in front of the first module. -/
def Setup.bare (setup : Setup) : Setup := { setup with frontmatter := [] }

/-- The items of a schema's bindings without the frontmatter. -/
def modules (setup : Setup) (s : Schema) : List Code.Item := s.services.map (module setup)

theorem isMacroCall_module (setup : Setup) (service : Service) :
    (module setup service).isMacroCall = false := rfl

theorem modules_bare (setup : Setup) (s : Schema) : modules setup.bare s = modules setup s := rfl

theorem text_bare (setup : Setup) (s : Schema) :
    text setup.bare s = Code.render setup.width (modules setup s) := by
  have hitems : items setup.bare s = modules setup s := by
    rw [← modules_bare]
    rfl
  rw [text, hitems]
  rfl

theorem modules_ne_nil {setup : Setup} {s : Schema} (hs : s.services ≠ []) :
    modules setup s ≠ [] :=
  mt List.map_eq_nil_iff.mp hs

theorem items_ne_nil {setup : Setup} {s : Schema} (hs : s.services ≠ []) : items setup s ≠ [] :=
  List.append_ne_nil_of_right_ne_nil _ (modules_ne_nil hs)

/-- Modules behind any items. -/
theorem render_append_modules {setup : Setup} {s : Schema} (hs : s.services ≠ [])
    {front : List Code.Item} (hfront : front ≠ []) :
    Code.render setup.width (front ++ modules setup s) =
      Code.render setup.width front ++ [0x0A] ++ text setup.bare s := by
  rw [text_bare]
  cases hservices : s.services with
  | nil => exact absurd hservices hs
  | cons service services =>
      rw [modules, hservices, List.map_cons]
      exact Code.render_append (isMacroCall_module setup service) setup.width hfront _

theorem text_append {setup : Setup} {s t u : Schema} (hs : s.services ≠ []) (ht : t.services ≠ [])
    (hu : u.services = s.services ++ t.services) :
    text setup u = text setup s ++ [0x0A] ++ text setup.bare t := by
  have hitems : items setup u = items setup s ++ modules setup t := by
    simp [items, modules, hu]
  rw [text, hitems]
  exact render_append_modules ht (items_ne_nil hs)

theorem text_frontmatter {setup : Setup} (hfront : setup.frontmatter ≠ []) (s : Schema) :
    text setup s = Bytes.dropTrailing 0x0A setup.frontmatter ++ [0x0A] ++
      if s.services = [] then [] else [0x0A] ++ text setup.bare s := by
  have hitems : items setup s = [.raw setup.frontmatter] ++ modules setup s := by
    simp [items, modules, hfront]
  rw [text, hitems]
  split_ifs with hs
  · rw [modules, hs, List.map_nil, List.append_nil, Code.render_raw, List.append_nil]
  · rw [render_append_modules hs (List.cons_ne_nil _ _), Code.render_raw, List.append_assoc]

/-! ## What binding amounts to -/

theorem foldl_skipped (services : List Service) (n : Nat) :
    services.foldl (fun n service => n + skipped service) n =
      n + services.foldl (fun n service => n + skipped service) 0 := by
  induction services generalizing n with
  | nil => rfl
  | cons service services ih =>
      rw [List.foldl_cons, List.foldl_cons, ih, ih (0 + skipped service)]
      omega

theorem bound_add_skipped (service : Service) :
    (bound service).length + skipped service = service.procedures.length := by
  have hle : (bound service).length ≤ service.procedures.length := List.length_filter_le _ _
  rw [skipped]
  omega

/-- Every procedure is bound or skipped. -/
theorem procedures_add_skipped (s : Schema) :
    (tally s).procedures + (tally s).skipped = (s.services.flatMap Service.procedures).length := by
  simp only [tally]
  induction s.services with
  | nil => rfl
  | cons service services ih =>
      rw [List.foldl_cons, foldl_skipped]
      simp only [List.flatMap_cons, List.length_append]
      have hservice := bound_add_skipped service
      omega

theorem tally_append {s t u : Schema} (hu : u.services = s.services ++ t.services) :
    (tally u).services = (tally s).services + (tally t).services ∧
      (tally u).procedures = (tally s).procedures + (tally t).procedures ∧
      (tally u).skipped = (tally s).skipped + (tally t).skipped := by
  refine ⟨?_, ?_, ?_⟩
  · simp [tally, hu]
  · simp [tally, hu]
  · simp only [tally, hu, List.foldl_append]
    exact foldl_skipped t.services _

/-- The bindings of services in a row are those of the first ones, an empty line, and those of the
others without frontmatter.  Frontmatter comes first, without the ends of lines behind it, and has an
empty line after it if there are services.  What is counted adds up, every procedure is either bound or
skipped, and the warnings are those of the schema, those about the schema as a whole, and those of each
service in the order of the services. -/
theorem bindings_compose (setup : Setup) :
    (∀ s t u : Schema, s.services ≠ [] → t.services ≠ [] →
      u.services = s.services ++ t.services →
      text setup u = text setup s ++ [0x0A] ++ text setup.bare t ∧
        (tally u).services = (tally s).services + (tally t).services ∧
        (tally u).procedures = (tally s).procedures + (tally t).procedures ∧
        (tally u).skipped = (tally s).skipped + (tally t).skipped) ∧
    (∀ s : Schema, setup.frontmatter ≠ [] →
      text setup s = Bytes.dropTrailing 0x0A setup.frontmatter ++ [0x0A] ++
        if s.services = [] then [] else [0x0A] ++ text setup.bare s) ∧
    ∀ s : Schema,
      (tally s).procedures + (tally s).skipped =
        (s.services.flatMap Service.procedures).length ∧
      (tally s).warnings = s.warnings ++ s.duplicates ++ s.services.flatMap collisions := by
  refine ⟨?_, ?_, ?_⟩
  · intro s t u hs ht hu
    exact ⟨text_append hs ht hu, tally_append hu⟩
  · intro s hfront
    exact text_frontmatter hfront s
  · intro s
    exact ⟨procedures_add_skipped s, rfl⟩

/-- Two services with a method each and a procedure that has none, behind frontmatter that ends in
empty lines. -/
theorem bindings_compose_two :
    let setup : Setup := { Setup.default with frontmatter := "// by hand\n\n" }
    let service (name : Bytes) : Service :=
      ⟨name, [], [], [⟨"Go", [], .void⟩, ⟨"get_On", [], .void⟩], []⟩
    let s : Schema := ⟨[], [service "A"], []⟩
    let t : Schema := ⟨[], [service "B"], []⟩
    let u : Schema := ⟨[], [service "A", service "B"], []⟩
    (s.services ≠ [] ∧ t.services ≠ [] ∧ u.services = s.services ++ t.services ∧
      setup.frontmatter ≠ []) ∧
    text setup u = text setup s ++ [0x0A] ++ text setup.bare t ∧
    (tally u).procedures = 2 ∧ (tally u).skipped = 2 ∧
    text setup u = Bytes.ofString "// by hand\n\n" ++ text setup.bare u := by
  intro setup service s t u
  have hs : s.services ≠ [] := List.cons_ne_nil _ _
  have ht : t.services ≠ [] := List.cons_ne_nil _ _
  have hfront : setup.frontmatter ≠ [] := by decide
  obtain ⟨happend, hfrontmatter, -⟩ := bindings_compose setup
  obtain ⟨htext, -, hprocedures, hskipped⟩ := happend s t u hs ht rfl
  refine ⟨⟨hs, ht, rfl, hfront⟩, htext, hprocedures.trans ?_, hskipped.trans ?_, ?_⟩
  · decide +kernel
  · decide +kernel
  · rw [hfrontmatter u hfront, if_neg (List.cons_ne_nil _ _), ← List.append_assoc]
    exact congrArg (· ++ text setup.bare u) (by decide)

end RpcBindings.Binding
