import RpcBindings.Proofs.Binding.Collision
import RpcBindings.Proofs.Binding.TypeText
import RpcBindings.Proofs.Text.Bytes
import RpcBindings.Proofs.Text.Quoted

/-!
# Method names that are taken (SPEC §4.3)

The functions of a structure are its constructor and one method for each bound procedure.  A method
whose name the constructor or an earlier method has is warned about, and the warning tells which of
the two it is: it speaks of the constructor exactly if the method is named as the constructor is, and
names the first procedure with a method of that name otherwise.  So without warnings all functions
have different names.

That a warning does not speak of the constructor is a statement about its text, in which names are
quoted.  A bound procedure and its method are named without blanks, so what is quoted is one word
each, and none of the words is one that only the other text has.
-/

set_option autoImplicit false

namespace RpcBindings

namespace Binding

open RpcBindings.Code (Function)
open RpcBindings.Name (isTypeStyle memberIdent)
open RpcBindings.Taken (IsFirst reportsFrom)

/-- What a warning says of a method that is named as the constructor is. -/
def clashText : Bytes := "clashes with the constructor"

/-- What a warning says of a method that is named as an earlier one is. -/
def definedText (procedure method other : Bytes) : Bytes :=
  "procedure " ++ quote procedure ++ " maps to method " ++ quote method ++
    ", which is already defined by " ++ quote other

/-- The words of such a warning. -/
def definedWords (procedure method other : Bytes) : List Bytes :=
  ["procedure", quote procedure, "maps", "to", "method", quote method ++ ",", "which", "is", "already",
    "defined", "by", quote other]

theorem definedText_eq_join (procedure method other : Bytes) :
    definedText procedure method other = Bytes.join [0x20] (definedWords procedure method other) := by
  have hmaps : (" maps to method " : Bytes) = [0x20] ++ (Bytes.ofString "maps" ++ [0x20] ++
      (Bytes.ofString "to" ++ [0x20] ++ (Bytes.ofString "method" ++ [0x20]))) := by decide
  have hdefined : (", which is already defined by " : Bytes) = Bytes.ofString "," ++ [0x20] ++
      (Bytes.ofString "which" ++ [0x20] ++ (Bytes.ofString "is" ++ [0x20] ++
        (Bytes.ofString "already" ++ [0x20] ++ (Bytes.ofString "defined" ++ [0x20] ++
          (Bytes.ofString "by" ++ [0x20]))))) := by decide
  have hprocedure : ("procedure " : Bytes) = Bytes.ofString "procedure" ++ [0x20] := by decide
  rw [definedText, hmaps, hdefined, hprocedure]
  simp only [definedWords, Bytes.join, List.append_assoc]

theorem quote_append_ne_with (name rest : Bytes) : quote name ++ rest ≠ "with" := by
  intro h
  exact absurd (List.cons.inj h).1 (by decide)

section

variable {procedure method other : Bytes} (hprocedure : 0x20 ∉ procedure) (hmethod : 0x20 ∉ method)
  (hother : 0x20 ∉ other)
include hprocedure hmethod hother

theorem of_mem_definedWords :
    ∀ word ∈ definedWords procedure method other, 0x20 ∉ word ∧ word ≠ "with" := by
  have hquote : ∀ {name : Bytes}, 0x20 ∉ name → 0x20 ∉ quote name ∧ quote name ≠ "with" := by
    intro name h
    have hne := quote_append_ne_with name []
    rw [List.append_nil] at hne
    exact ⟨space_notMem_quote h, hne⟩
  have hcomma : 0x20 ∉ quote method ++ "," ∧ quote method ++ "," ≠ "with" := by
    refine ⟨?_, quote_append_ne_with _ _⟩
    rw [List.mem_append, not_or]
    exact ⟨space_notMem_quote hmethod, by decide⟩
  simp only [definedWords, List.forall_mem_cons]
  exact ⟨by decide, hquote hprocedure, by decide, by decide, by decide, hcomma, by decide, by decide,
    by decide, by decide, by decide, hquote hother, by simp⟩

/-- Names without blanks do not make a warning speak of the constructor. -/
theorem not_clashText_infix_definedText : ¬ clashText <:+: definedText procedure method other := by
  rintro ⟨front, back, h⟩
  have hwords := of_mem_definedWords hprocedure hmethod hother
  have hclash : clashText =
      Bytes.ofString "clashes" ++ 0x20 :: (Bytes.ofString "with" ++ 0x20 :: "the constructor") := by
    decide
  have hsplit : front ++ clashText ++ back = (front ++ "clashes") ++
      0x20 :: (Bytes.ofString "with" ++ 0x20 :: (Bytes.ofString "the constructor" ++ back)) := by
    rw [hclash]
    simp only [List.append_assoc, List.cons_append]
  have hword : Bytes.ofString "with" ∈ definedWords procedure method other := by
    rw [← Bytes.split_join (by simp [definedWords]) fun word hword => (hwords word hword).1,
      ← definedText_eq_join, ← h, hsplit]
    exact Bytes.mem_split_of_between (by decide) _ _
  exact (hwords _ hword).2 rfl

end

/-! ## Names without blanks -/

theorem space_notMem_memberIdent (name : Bytes) : 0x20 ∉ memberIdent name := by
  intro h
  exact not_mem_delimiters_of_mem_memberIdent name _ h (by decide)

theorem space_notMem_of_isTypeStyle {name : Bytes} (h : isTypeStyle name = true) : 0x20 ∉ name := by
  obtain ⟨-, hvalid, hcased⟩ := Name.isTypeStyle_iff_cased.mp h
  intro hmem
  rw [← Utf8.encode_runes hvalid] at hmem
  exact not_mem_delimiters_of_isWordChar hcased.isWordChar _ hmem (by decide)

theorem space_notMem_of_mem_bound {s : Service} {p : Procedure} (h : p ∈ bound s) :
    0x20 ∉ p.name :=
  space_notMem_of_isTypeStyle (List.mem_filter.mp h).2

/-! ## Warnings -/

/-- The method for the bound procedure at a place is named as the constructor is, or as the method
for an earlier one. -/
def NameTaken (s : Service) (i : Nat) : Prop :=
  ∃ p, (bound s)[i]? = some p ∧
    (methodName p = "new" ∨ ∃ j < i, ∃ q, (bound s)[j]? = some q ∧ methodName q = methodName p)

/-- What the warning about the method for a bound procedure looks like. -/
structure WarnsOf (s : Service) (p : Procedure) (w : Warning) : Prop where
  code : w.code = "method_name_collision"
  service : w.service = s.name
  file : w.file = if s.file = [] then none else some s.file
  /-- The message speaks of the constructor exactly if the method is named as it is. -/
  mentions : "clashes with the constructor" <:+: w.message ↔ methodName p = "new"
  clashes : methodName p = "new" →
    w.message = "procedure " ++ quote p.name ++ " maps to method " ++ quote (methodName p) ++
      ", which clashes with the constructor"
  /-- Otherwise it names the first procedure with a method of that name. -/
  defined : methodName p ≠ "new" →
    ∃ first, IsFirst methodName (bound s) first ∧ methodName first = methodName p ∧
      w.message = "procedure " ++ quote p.name ++ " maps to method " ++ quote (methodName p) ++
        ", which is already defined by " ++ quote first.name

theorem warnsOf_constructor {s : Service} {p : Procedure} (h : methodName p = "new") :
    WarnsOf s p (collision s p.name (methodName p) none) where
  code := rfl
  service := rfl
  file := rfl
  mentions := by
    have hclash : (", which clashes with the constructor" : Bytes) = ", which " ++ clashText := by decide
    refine iff_of_true ?_ h
    simp only [collision, hclash]
    exact ⟨_, [], by rw [List.append_nil, ← List.append_assoc]; rfl⟩
  clashes := fun _ => rfl
  defined := fun hne => absurd h hne

theorem warnsOf_method {s : Service} {p first : Procedure} (hp : p ∈ bound s)
    (hnew : methodName p ≠ "new") (hfirst : IsFirst methodName (bound s) first)
    (hname : methodName first = methodName p) :
    WarnsOf s p (collision s p.name (methodName p) (some first.name)) where
  code := rfl
  service := rfl
  file := rfl
  mentions := by
    have htext : (collision s p.name (methodName p) (some first.name)).message =
        definedText p.name (methodName p) first.name := by
      simp only [collision, definedText, List.append_assoc]
    refine iff_of_false ?_ hnew
    rw [htext]
    exact not_clashText_infix_definedText (space_notMem_of_mem_bound hp) (space_notMem_memberIdent _)
      (space_notMem_of_mem_bound hfirst.mem)
  clashes := fun h => absurd h hnew
  defined := fun _ => ⟨first, hfirst, hname, by simp only [collision, List.append_assoc]⟩

theorem collisions_oneForEach (s : Service) :
    OneForEach (NameTaken s) (fun i w => ∃ p, (bound s)[i]? = some p ∧ WarnsOf s p w)
      (collisions s) := by
  rw [collisions, collisionsFrom_eq_reportsFrom]
  refine (Taken.reportsFrom_oneForEach (bound s)).imp ?_ ?_
  · intro i
    have hheld : ∀ name, (∃ held, [(constructorName, (none : Option Bytes))].lookup name = some held) ↔
        name = constructorName := by simp [lookup_constructor]
    simp only [hheld]
    exact Iff.rfl
  · rintro i w ⟨p, owner, hp, rfl, howner⟩
    refine ⟨p, hp, ?_⟩
    rw [lookup_constructor] at howner
    split_ifs at howner with hnew
    · obtain howner | ⟨howner, -⟩ := howner
      · obtain rfl := Option.some.inj howner
        exact warnsOf_constructor hnew
      · cases howner
    · obtain howner | ⟨-, first, hfirst, hname, rfl⟩ := howner
      · cases howner
      · exact warnsOf_method (List.mem_of_getElem? hp) hnew hfirst hname

/-! ## Different names -/

theorem map_name_functions (setup : Setup) (s : Service) :
    (functions setup s).map Function.name = constructorName :: (bound s).map methodName := by
  rw [functions, List.map_cons, List.map_map]
  rfl

theorem collisions_eq_nil_iff (s : Service) :
    collisions s = [] ↔ (constructorName :: (bound s).map methodName).Nodup := by
  rw [collisions, collisionsFrom_eq_reportsFrom, Taken.reportsFrom_eq_nil_iff, List.nodup_cons,
    and_comm]
  simp [lookup_constructor]

/-- There is one warning, in the order of the procedures, for each bound procedure whose method is
named as the constructor or as an earlier method, and each tells which it is.  So there are none
exactly if no two functions of the structure have one name. -/
theorem collisions_warn_exactly (s : Service) :
    OneForEach (NameTaken s) (fun i w => ∃ p, (bound s)[i]? = some p ∧ WarnsOf s p w)
      (collisions s) ∧
    ∀ setup : Setup, collisions s = [] ↔ ((functions setup s).map Function.name).Nodup := by
  refine ⟨collisions_oneForEach s, ?_⟩
  intro setup
  rw [collisions_eq_nil_iff, map_name_functions]

end Binding

end RpcBindings
