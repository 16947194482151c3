import Mathlib.Data.List.Forall2
import RpcBindings.Code.Layout
import RpcBindings.Proofs.Code.Lexical

/-!
# Layout keeps the lexical structure (SPEC §4.3)

Printing puts only blanks and ends of lines between the texts of lines, so code is scanned line by
line, whatever the width of a level is.  A block opens one brace and closes it; everything else that
is laid out starts and ends with the brackets that were due before.
-/

set_option autoImplicit false

namespace RpcBindings.Code

open RpcBindings.Code.Lexical

/-! ## Lines -/

/-- The lines one after another lead from one list of due brackets to another. -/
inductive LinesLex : List Line → List Char → List Char → List (List Char) → Prop where
  | nil {due : List Char} : LinesLex [] due due []
  | cons {l : Line} {lines : List Line} {a b c : List Char} {ls ms : List (List Char)} :
      Lexes l.text a b ls → LinesLex lines b c ms → LinesLex (l :: lines) a c (ls ++ ms)

theorem linesLex_singleton {l : Line} {a b : List Char} {ls : List (List Char)}
    (h : Lexes l.text a b ls) : LinesLex [l] a b ls := by
  have hcons := LinesLex.cons h .nil
  rwa [List.append_nil] at hcons

theorem linesLex_flush_cons {text : Bytes} {lines : List Line} {a b c : List Char}
    {ls ms : List (List Char)} (h : Lexes text a b ls) (hlines : LinesLex lines b c ms) :
    LinesLex (.flush text :: lines) a c (ls ++ ms) :=
  .cons h hlines

theorem LinesLex.append {xs ys : List Line} {a b c : List Char} {ls ms : List (List Char)}
    (hxs : LinesLex xs a b ls) (hys : LinesLex ys b c ms) : LinesLex (xs ++ ys) a c (ls ++ ms) := by
  induction hxs with
  | nil => exact hys
  | cons hl _ ih =>
      rw [List.append_assoc]
      exact .cons hl (ih hys)

theorem LinesLex.frame {xs : List Line} {a b : List Char} {ls : List (List Char)}
    (h : LinesLex xs a b ls) (outer : List Char) : LinesLex xs (a ++ outer) (b ++ outer) ls := by
  induction h with
  | nil => exact .nil
  | cons hl _ ih => exact .cons (hl.frame outer) ih

theorem LinesLex.deeper {xs : List Line} {a b : List Char} {ls : List (List Char)}
    (h : LinesLex xs a b ls) : LinesLex (xs.map Line.deeper) a b ls := by
  induction h with
  | nil => exact .nil
  | cons hl _ ih => exact .cons hl ih

theorem linesLex_blank (due : List Char) : LinesLex [.blank] due due [] :=
  linesLex_singleton (lexes_nil due)

theorem linesLex_of_forall {xs : List Line} (h : ∀ l ∈ xs, Lexes l.text [] [] []) :
    LinesLex xs [] [] [] := by
  induction xs with
  | nil => exact .nil
  | cons l xs ih => exact .cons (h l (by simp)) (ih fun x hx => h x (by simp [hx]))

theorem print_lexes {l : Line} {a b : List Char} {ls : List (List Char)} (h : Lexes l.text a b ls)
    (width : Nat) : Lexes (l.print width) a b ls := by
  have hindent : PlainText (List.replicate (width * l.level) 0x20) := by
    refine plainText_of_forall ?_
    intro b hb
    rw [(List.mem_replicate.mp hb).2]
    decide
  have hend : PlainText [0x0A] := plainText_ascii (by decide)
  unfold Line.print
  split
  · rename_i htext
    rw [htext] at h
    exact h.append_plain hend
  · exact (hindent.append_lexes h).append_plain hend

theorem LinesLex.print {xs : List Line} {a b : List Char} {ls : List (List Char)}
    (h : LinesLex xs a b ls) (width : Nat) : Lexes (xs.flatMap (Line.print width)) a b ls := by
  induction h with
  | nil => exact lexes_nil _
  | cons hl _ ih => exact (print_lexes hl width).append ih

/-! ## Statements and blocks -/

theorem lexes_of_tab_cons {bs : Bytes} {a b : List Char} {ls : List (List Char)}
    (h : Lexes (0x09 :: bs) a b ls) : Lexes bs a b ls := by
  have hpieces := Utf8.pieces_cons_of_lt (b := 0x09) (by decide) bs
  refine ⟨?_, ?_⟩
  · have hvalid := h.valid
    rw [Utf8.isValid_eq, hpieces, List.all_cons, Bool.and_eq_true] at hvalid
    rw [Utf8.isValid_eq]
    exact hvalid.2
  · have hleads := h.leads
    rw [Utf8.runes, hpieces, List.map_cons] at hleads
    exact hleads.of_plain_cons (by decide)

/-- The tabs that give a statement its level do not count as text. -/
theorem statement_lexes {bs : Bytes} {a b : List Char} {ls : List (List Char)}
    (h : Lexes bs a b ls) : Lexes (statement bs).text a b ls := by
  induction bs with
  | nil => exact h
  | cons d bs ih =>
      unfold statement
      split_ifs with hd
      · subst hd
        exact ih (lexes_of_tab_cons h)
      · exact h

theorem linesLex_statements {body : List Bytes} {a b : List Char} {ls : List (List Char)}
    (h : LinesLex (body.map Line.flush) a b ls) : LinesLex (body.map statement) a b ls := by
  induction body generalizing a ls with
  | nil => exact h
  | cons s body ih =>
      rw [List.map_cons] at h ⊢
      cases h with
      | cons hs hbody => exact .cons (statement_lexes hs) (ih hbody)

theorem block_linesLex {head : Bytes} {inner : List Line} {ls : List (List Char)}
    (hhead : Lexes head [] [] []) (hinner : LinesLex inner [] [] ls) :
    LinesLex (block head inner) [] [] ls := by
  have hopen : Lexes (head ++ " \x7b") [] ['}'] [] :=
    hhead.append (lexes_of_run (by decide) fun _ _ => rfl)
  have hclose : Lexes (Bytes.ofString "\x7d") ['}'] [] [] :=
    lexes_of_run (by decide) fun _ _ => rfl
  have hlines := LinesLex.cons (l := .flush (head ++ " \x7b")) hopen
    ((hinner.deeper.frame ['}']).append (linesLex_singleton (l := .flush "\x7d") hclose))
  simp only [List.nil_append, List.append_nil] at hlines
  exact hlines

/-! ## Items -/

/-- The function can be scanned on its own and holds the literals with these bodies. -/
def Function.Holds (f : Function) (ls : List (List Char)) : Prop := LinesLex f.lines [] [] ls

/-- The item can be scanned on its own and holds the literals with these bodies. -/
def Item.Holds (item : Item) (ls : List (List Char)) : Prop := LinesLex item.lines [] [] ls

theorem functionLines_linesLex {fs : List Function} {lss : List (List (List Char))}
    (h : List.Forall₂ Function.Holds fs lss) :
    LinesLex (functionLines fs) [] [] lss.flatten := by
  induction h with
  | nil => exact .nil
  | @cons f ls fs lss hf hfs ih =>
      cases hfs with
      | nil =>
          rw [functionLines, List.flatten_singleton]
          exact hf
      | cons hg hrest =>
          rw [functionLines, List.flatten_cons]
          exact hf.append ((linesLex_blank []).append ih)

theorem itemLinesAfter_linesLex {items : List Item} {lss : List (List (List Char))}
    (h : List.Forall₂ Item.Holds items lss) (macroBefore : Bool) :
    LinesLex (itemLinesAfter macroBefore items) [] [] lss.flatten := by
  induction h generalizing macroBefore with
  | nil =>
      rw [itemLinesAfter]
      exact .nil
  | @cons item ls items lss hitem _ ih =>
      have hgap : LinesLex (if macroBefore && item.isMacroCall then [] else [.blank]) [] [] [] := by
        split_ifs
        · exact .nil
        · exact linesLex_blank []
      rw [itemLinesAfter, List.flatten_cons]
      exact (hgap.append hitem).append (ih _)

theorem itemLines_linesLex {items : List Item} {lss : List (List (List Char))}
    (h : List.Forall₂ Item.Holds items lss) :
    LinesLex (itemLines items) [] [] lss.flatten := by
  cases h with
  | nil =>
      rw [itemLines]
      exact .nil
  | cons hitem hitems =>
      rw [itemLines, List.flatten_cons]
      exact hitem.append (itemLinesAfter_linesLex hitems _)

theorem join_lexes {sep : Bytes} (hsep : PlainText sep) {parts : List Bytes}
    (h : ∀ part ∈ parts, Lexes part [] [] []) : Lexes (Bytes.join sep parts) [] [] [] := by
  induction parts with
  | nil => exact lexes_nil []
  | cons part parts ih =>
      have hpart := h part (by simp)
      cases parts with
      | nil => exact hpart
      | cons next rest =>
          exact (hpart.append_plain hsep).append (ih fun p hp => h p (by simp [hp]))

/-! ## Parts of items -/

theorem plainText_qualify {path name : Bytes} (hpath : PlainText path) (hname : PlainText name) :
    PlainText (qualify path name) := by
  unfold qualify
  split
  · exact hname
  · exact (hpath.append (plainText_ascii (by decide))).append hname

theorem plainText_visible {visibility : Bytes} (h : PlainText visibility) :
    PlainText (visible visibility) := by
  unfold visible
  split
  · exact plainText_ascii (by decide)
  · exact h.append (plainText_ascii (by decide))

/-- The parts one after another in brackets. -/
theorem bracketed_lexes {opening closing : Bytes} {bracket : Char} {parts : List Bytes}
    (hopening : Lexes opening [] [bracket] []) (hclosing : Lexes closing [bracket] [] [])
    (hparts : ∀ part ∈ parts, Lexes part [] [] []) :
    Lexes (opening ++ Bytes.join ", " parts ++ closing) [] [] [] := by
  have hsep : PlainText (Bytes.ofString ", ") := plainText_ascii (by decide)
  have hjoin := join_lexes hsep hparts
  exact (hopening.append (hjoin.frame [bracket])).append hclosing

theorem Function.signature_lexes {f : Function} (hvisibility : PlainText f.visibility)
    (hname : PlainText f.name) (harguments : ∀ a ∈ f.arguments, PlainText a.name)
    (htypes : ∀ a ∈ f.arguments, Lexes a.type [] [] []) (hresult : Lexes f.result [] [] []) :
    Lexes f.signature [] [] [] := by
  have hparameters : ∀ part ∈ f.parameters, Lexes part [] [] [] := by
    refine List.forall_mem_append.mpr ⟨?_, List.forall_mem_map.mpr ?_⟩
    · intro part hpart
      split_ifs at hpart
      · rw [List.mem_singleton.mp hpart]
        exact (plainText_ascii (by decide)).lexes []
      · cases hpart
    · intro a ha
      exact ((harguments a ha).append (plainText_ascii (by decide))).append_lexes (htypes a ha)
  have hhead : PlainText (visible f.visibility ++ "fn " ++ f.name) :=
    ((plainText_visible hvisibility).append (plainText_ascii (by decide))).append hname
  have hcall : Lexes (visible f.visibility ++ "fn " ++ f.name ++ "(" ++
      Bytes.join ", " f.parameters ++ ")") [] [] [] :=
    bracketed_lexes (hhead.append_lexes (lexes_of_run (by decide) fun _ _ => rfl))
      (lexes_of_run (by decide) fun _ _ => rfl) hparameters
  unfold Function.signature
  simp only
  split
  · exact hcall
  · exact (hcall.append_plain (plainText_ascii (by decide))).append hresult

theorem Function.holds {f : Function} {ls : List (List Char)}
    (hsignature : Lexes f.signature [] [] []) (hbody : LinesLex (f.body.map Line.flush) [] [] ls) :
    f.Holds ls :=
  block_linesLex hsignature (linesLex_statements hbody)

theorem macroCall_holds {path : Bytes} {arguments : List Bytes} (hpath : PlainText path)
    (harguments : ∀ a ∈ arguments, Lexes a [] [] []) :
    (Item.macroCall path arguments).Holds [] := by
  rw [Item.Holds, Item.lines]
  refine linesLex_singleton ?_
  exact bracketed_lexes (hpath.append_lexes (lexes_of_run (by decide) fun _ _ => rfl))
    (lexes_of_run (by decide) fun _ _ => rfl) harguments

theorem struct_holds {visibility name : Bytes} {fields : List Field}
    (hvisibility : PlainText visibility) (hname : PlainText name)
    (hfields : ∀ f ∈ fields, PlainText f.visibility ∧ PlainText f.name ∧ PlainText f.type) :
    (Item.struct visibility name fields).Holds [] := by
  have hhead : PlainText (visible visibility ++ "struct " ++ name) :=
    ((plainText_visible hvisibility).append (plainText_ascii (by decide))).append hname
  rw [Item.Holds, Item.lines]
  cases fields with
  | nil => exact linesLex_singleton ((hhead.append (plainText_ascii (by decide))).lexes [])
  | cons f fields =>
      refine block_linesLex (hhead.lexes []) (linesLex_of_forall (List.forall_mem_map.mpr ?_))
      intro g hg
      obtain ⟨hv, hn, ht⟩ := hfields g hg
      have hfield : PlainText (visible g.visibility ++ g.name ++ ": " ++ g.type ++ ",") :=
        ((((plainText_visible hv).append hn).append (plainText_ascii (by decide))).append
          ht).append (plainText_ascii (by decide))
      exact hfield.lexes []

theorem implementation_holds {target : Bytes} {functions : List Function}
    {lss : List (List (List Char))} (htarget : PlainText target)
    (hfunctions : List.Forall₂ Function.Holds functions lss) :
    (Item.implementation target functions).Holds lss.flatten := by
  have hhead : PlainText ("impl " ++ target) := PlainText.append (plainText_ascii (by decide)) htarget
  rw [Item.Holds, Item.lines]
  exact block_linesLex (hhead.lexes []) (functionLines_linesLex hfunctions)

theorem module_holds {visibility name : Bytes} {uses : List Bytes} {items : List Item}
    {lss : List (List (List Char))} (hvisibility : PlainText visibility) (hname : PlainText name)
    (huses : ∀ u ∈ uses, PlainText u)
    (hitems : List.Forall₂ Item.Holds items lss) :
    (Item.module visibility name uses items).Holds lss.flatten := by
  have hhead : PlainText (visible visibility ++ "mod " ++ name) :=
    ((plainText_visible hvisibility).append (plainText_ascii (by decide))).append hname
  have huseLines : LinesLex (useLines uses) [] [] [] := by
    refine linesLex_of_forall (List.forall_mem_map.mpr ?_)
    intro u hu
    have huse : PlainText ("use " ++ u ++ ";") :=
      (PlainText.append (plainText_ascii (by decide)) (huses u hu)).append
        (plainText_ascii (by decide))
    exact huse.lexes []
  have hgap : LinesLex (gap uses items) [] [] [] := by
    unfold gap
    split_ifs
    · exact .nil
    · exact linesLex_blank []
  rw [Item.Holds, Item.lines]
  exact block_linesLex (hhead.lexes []) ((huseLines.append hgap).append (itemLines_linesLex hitems))

/-- An item on its own, printed with any width. -/
theorem render_singleton_lexes {item : Item} {ls : List (List Char)}
    (h : item.Holds ls) (width : Nat) : Lexes (render width [item]) [] [] ls := by
  have hitems : LinesLex (itemLines [item]) [] [] ls := by
    simpa using itemLines_linesLex (.cons h .nil)
  exact hitems.print width

end RpcBindings.Code
