import Mathlib.Data.Bool.AllAny
import RpcBindings.Proofs.Binding.Injection
import RpcBindings.Proofs.Name.Seams
import RpcBindings.Proofs.Service.Leaves

/-!
# Types can be told from their text (SPEC §4.2)

The text of a type says how the type is built.  A leaf is written without brackets and commas, so it
goes up to the first of them; a list and a tuple begin with what no leaf begins with and end with
their own bracket.  So a type can be told from whatever may follow it inside another type, and the
elements of a tuple one after another.

Of a reference the text holds the path of all services, the module of the service and the name of
the class.  Modules hold no colon, so the two names can be told apart, but two services may have one
module.
-/

set_option autoImplicit false

namespace RpcBindings

namespace ServiceType

/-- The bytes that separate the parts of a type. -/
def delimiters : Bytes := "<>(),: "

/-- The text of the type can tell it: every leaf is known, and no class is named with a
delimiter. -/
structure Telling (t : ServiceType) : Prop where
  known : ∀ leaf ∈ t.leaves, leaf ≠ .void ∧ ∀ code, leaf ≠ .unknown code
  names : ∀ name ∈ t.classNames, ∀ b ∈ name, b ∉ delimiters

mutual

/-- The types are built alike from the same primitives and from classes of the same name, in
services that have the same module. -/
inductive SameStructure : ServiceType → ServiceType → Prop where
  | primitive {p : Primitive} : SameStructure (.primitive p) (.primitive p)
  | tuple {ts us : List ServiceType} :
      SameStructures ts us → SameStructure (.tuple ts) (.tuple us)
  | list {t u : ServiceType} : SameStructure t u → SameStructure (.list t) (.list u)
  | reference {service other name : Bytes} :
      Name.memberIdent service = Name.memberIdent other →
      SameStructure (.reference service name) (.reference other name)

/-- As many types on both sides, built alike one by one. -/
inductive SameStructures : List ServiceType → List ServiceType → Prop where
  | nil : SameStructures [] []
  | cons {t u : ServiceType} {ts us : List ServiceType} :
      SameStructure t u → SameStructures ts us → SameStructures (t :: ts) (u :: us)

end

theorem classNamesAll_eq_flatMap (ts : List ServiceType) :
    classNamesAll ts = ts.flatMap classNames := by
  induction ts with
  | nil => rfl
  | cons t ts ih => rw [classNamesAll, ih, List.flatMap_cons]

/-- The leaves that have a text. -/
inductive IsKnownLeaf : ServiceType → Prop where
  | primitive (p : Primitive) : IsKnownLeaf (.primitive p)
  | reference (service name : Bytes) : IsKnownLeaf (.reference service name)

theorem not_telling_void : ¬ Telling .void := by
  intro h
  exact (h.known .void (by simp [leaves])).1 rfl

theorem not_telling_unknown (code : Bytes) : ¬ Telling (.unknown code) := by
  intro h
  exact (h.known (.unknown code) (by simp [leaves])).2 code rfl

theorem Telling.cases {t : ServiceType} (h : Telling t) :
    IsKnownLeaf t ∨ (∃ ts, t = .tuple ts) ∨ ∃ u, t = .list u := by
  cases t with
  | void => exact absurd h not_telling_void
  | primitive p => exact .inl (.primitive p)
  | unknown code => exact absurd h (not_telling_unknown code)
  | tuple ts => exact .inr (.inl ⟨ts, rfl⟩)
  | list u => exact .inr (.inr ⟨u, rfl⟩)
  | reference service name => exact .inl (.reference service name)

theorem IsKnownLeaf.of_sameStructure {t u : ServiceType} (ht : IsKnownLeaf t)
    (h : SameStructure t u) : IsKnownLeaf u := by
  cases h with
  | primitive => exact ht
  | reference => exact .reference _ _
  | tuple => cases ht
  | list => cases ht

theorem Telling.element {ts : List ServiceType} (h : Telling (.tuple ts)) :
    ∀ t ∈ ts, Telling t := by
  intro t ht
  constructor
  · intro leaf hleaf
    refine h.known leaf ?_
    rw [leaves, leavesAll_eq_flatMap]
    exact List.mem_flatMap.mpr ⟨t, ht, hleaf⟩
  · intro name hname
    refine h.names name ?_
    rw [classNames, classNamesAll_eq_flatMap]
    exact List.mem_flatMap.mpr ⟨t, ht, hname⟩

theorem Telling.item {t : ServiceType} (h : Telling (.list t)) : Telling t := by
  constructor
  · intro leaf hleaf
    refine h.known leaf ?_
    rwa [leaves]
  · intro name hname
    refine h.names name ?_
    rwa [classNames]

end ServiceType

namespace Binding

open RpcBindings.Name (isWordChar memberStyle memberIdent)
open RpcBindings.ServiceType (delimiters IsKnownLeaf Telling SameStructure SameStructures)

/-! ## Identifiers -/

theorem not_mem_delimiters_of_isWordChar {cs : List Char} (h : ∀ c ∈ cs, isWordChar c = true) :
    ∀ b ∈ Utf8.encode cs, b ∉ delimiters := by
  have hdelimiters : ∀ d ∈ delimiters, d < 0x80 ∧ isWordChar (Char.ofNat d.toNat) = false :=
    List.all_iff_forall_prop.mp (by decide)
  intro b hb hmem
  obtain ⟨hlt, hword⟩ := hdelimiters b hmem
  rw [h _ (Utf8.mem_of_mem_encode hlt hb)] at hword
  cases hword

theorem not_mem_delimiters_of_mem_memberStyle (name : Bytes) :
    ∀ b ∈ memberStyle name, b ∉ delimiters := by
  rw [Name.memberStyle_eq_encode]
  refine not_mem_delimiters_of_isWordChar (Name.forall_mem_spell (by decide) ?_)
  intro c hc
  exact Name.isWordChar_toLower (Name.isWordChar_of_mem_separateRunes c hc)

/-- Modules are named without a delimiter. -/
theorem not_mem_delimiters_of_mem_memberIdent (name : Bytes) :
    ∀ b ∈ memberIdent name, b ∉ delimiters := by
  have hstyle := not_mem_delimiters_of_mem_memberStyle name
  unfold memberIdent
  split
  · exact List.all_iff_forall_prop.mp (by decide)
  · unfold Name.escapeKeyword
    split_ifs
    · exact List.forall_mem_append.mpr ⟨hstyle, List.all_iff_forall_prop.mp (by decide)⟩
    · exact List.forall_mem_append.mpr ⟨List.all_iff_forall_prop.mp (by decide), hstyle⟩
    · exact hstyle

/-! ## Leaves -/

/-- Bytes of one kind can be told from what follows them when that begins with none of them. -/
theorem append_inj_of_kind {P : UInt8 → Prop} {x y r s : Bytes} (hx : ∀ b ∈ x, P b)
    (hy : ∀ b ∈ y, P b) (hr : ∀ b ∈ r.head?, ¬ P b) (hs : ∀ b ∈ s.head?, ¬ P b)
    (h : x ++ r = y ++ s) : x = y ∧ r = s := by
  induction x generalizing y with
  | nil =>
      cases y with
      | nil => exact ⟨rfl, h⟩
      | cons b y =>
          rw [List.nil_append] at h
          rw [h] at hr
          exact absurd (hy b (by simp)) (hr b rfl)
  | cons a x ih =>
      cases y with
      | nil =>
          rw [List.nil_append] at h
          rw [← h] at hs
          exact absurd (hx a (by simp)) (hs a rfl)
      | cons b y =>
          obtain ⟨rfl, hrest⟩ := List.cons.inj h
          obtain ⟨rfl, hrs⟩ :=
            ih (fun c hc => hx c (by simp [hc])) (fun c hc => hy c (by simp [hc]))
            hrest
          exact ⟨rfl, hrs⟩

/-- The byte is neither a bracket nor a comma. -/
def IsInner (b : UInt8) : Prop := b ∉ Bytes.ofString "<>(),"

instance : DecidablePred IsInner := fun b => inferInstanceAs (Decidable (b ∉ _))

/-- Nothing follows, or what closes a list or a tuple or separates elements. -/
def Ended (rest : Bytes) : Prop := ∀ b ∈ rest.head?, b ∈ Bytes.ofString ">),"

theorem Ended.not_isInner {rest : Bytes} (h : Ended rest) : ∀ b ∈ rest.head?, ¬ IsInner b := by
  have hends : ∀ b ∈ Bytes.ofString ">),", ¬ IsInner b :=
    List.all_iff_forall_prop.mp (by decide)
  intro b hb
  exact hends b (h b hb)

theorem isInner_of_not_mem_delimiters {b : UInt8} (h : b ∉ delimiters) : IsInner b := by
  have hsubset : Bytes.ofString "<>()," ⊆ delimiters := by decide
  exact fun hb => h (hsubset hb)

theorem isInner_primitive (p : Primitive) : ∀ b ∈ p.rust, IsInner b := by
  cases p <;> exact List.all_iff_forall_prop.mp (by decide)

/-- Up to what ends it, a text without brackets and commas is no beginning of a list or a tuple. -/
theorem append_ne_of_opening {x r front back : Bytes} {b : UInt8} (hx : ∀ c ∈ x, IsInner c)
    (hr : Ended r) (hfront : ∀ c ∈ front, IsInner c) (hb : b ∈ Bytes.ofString "<(") :
    x ++ r ≠ front ++ b :: back := by
  have hopening : ∀ c ∈ Bytes.ofString "<(", ¬ IsInner c ∧ c ∉ Bytes.ofString ">)," :=
    List.all_iff_forall_prop.mp (by decide)
  obtain ⟨hinner, hclosing⟩ := hopening b hb
  intro h
  have hback : ∀ c ∈ (b :: back).head?, ¬ IsInner c := by
    intro c hc
    obtain rfl := Option.some.inj hc
    exact hinner
  obtain ⟨-, rfl⟩ := append_inj_of_kind hx hfront hr.not_isInner hback h
  exact hclosing (hr b rfl)

theorem qualify_inj {path x y : Bytes} (h : Code.qualify path x = Code.qualify path y) : x = y := by
  unfold Code.qualify at h
  split at h
  · exact h
  · exact List.append_cancel_left h

theorem colon_mem_reference (path service name : Bytes) :
    0x3A ∈ typeText path (.reference service name) := by
  have hcolon : 0x3A ∈ memberIdent service ++ "::" ++ name :=
    List.mem_append_left _ (List.mem_append_right _ (by decide))
  rw [typeText]
  unfold Code.qualify
  split
  · exact hcolon
  · exact List.mem_append_right _ hcolon

/-- A reference tells its class and the module of its service: modules hold no colon. -/
theorem reference_inj {path service other name name' : Bytes}
    (h : typeText path (.reference service name) = typeText path (.reference other name')) :
    memberIdent service = memberIdent other ∧ name = name' := by
  have hident : ∀ (service : Bytes), ∀ b ∈ memberIdent service, b ≠ 0x3A := by
    intro service b hb hcolon
    refine not_mem_delimiters_of_mem_memberIdent service b hb ?_
    rw [hcolon]
    decide
  have hcolons : ∀ (name : Bytes), ∀ b ∈ (Bytes.ofString "::" ++ name).head?, ¬ b ≠ 0x3A := by
    intro name b hb
    obtain rfl := Option.some.inj hb
    decide
  rw [typeText, typeText] at h
  have hnames := qualify_inj h
  rw [List.append_assoc, List.append_assoc] at hnames
  obtain ⟨hmodule, hrest⟩ := append_inj_of_kind (hident service) (hident other) (hcolons name)
    (hcolons name') hnames
  exact ⟨hmodule, List.append_cancel_left hrest⟩

theorem primitive_rust_injective : Function.Injective Primitive.rust := by
  intro p q h
  revert h
  cases p <;> cases q <;> decide

theorem colon_not_mem_primitive (p : Primitive) : 0x3A ∉ p.rust := by
  cases p <;> decide

theorem sameStructure_of_leaf_eq {path : Bytes} {t u : ServiceType} (ht : IsKnownLeaf t)
    (hu : IsKnownLeaf u) (h : typeText path t = typeText path u) : SameStructure t u := by
  cases ht with
  | primitive p =>
      cases hu with
      | primitive q =>
          rw [typeText, typeText] at h
          rw [primitive_rust_injective h]
          exact .primitive
      | reference service name =>
          have hcolon := colon_mem_reference path service name
          rw [← h, typeText] at hcolon
          exact absurd hcolon (colon_not_mem_primitive p)
  | reference service name =>
      cases hu with
      | primitive q =>
          have hcolon := colon_mem_reference path service name
          rw [h, typeText] at hcolon
          exact absurd hcolon (colon_not_mem_primitive q)
      | reference other name' =>
          obtain ⟨hmodule, rfl⟩ := reference_inj h
          exact .reference hmodule

theorem leaf_text_ne_nil (path : Bytes) {t : ServiceType} (hleaf : IsKnownLeaf t) :
    typeText path t ≠ [] := by
  cases hleaf with
  | primitive p =>
      rw [typeText]
      cases p <;> decide
  | reference service name => exact List.ne_nil_of_mem (colon_mem_reference path service name)

/-! ## Lists and tuples -/

theorem typeText_list_append (path : Bytes) (t : ServiceType) (r : Bytes) :
    typeText path (.list t) ++ r =
      Bytes.ofString "Vec" ++ 0x3C :: (typeText path t ++ 0x3E :: r) := by
  have hopen : ("Vec<" : Bytes) = Bytes.ofString "Vec" ++ [0x3C] := by decide
  have hclose : (">" : Bytes) = [0x3E] := by decide
  rw [typeText, hopen, hclose]
  simp

theorem typeText_tuple_append (path : Bytes) (ts : List ServiceType) (r : Bytes) :
    typeText path (.tuple ts) ++ r =
      0x28 :: (Bytes.join ", " (typeTexts path ts) ++ 0x29 :: r) := by
  have hopen : ("(" : Bytes) = [0x28] := by decide
  have hclose : (")" : Bytes) = [0x29] := by decide
  rw [typeText, hopen, hclose]
  simp

/-- The texts with a comma and a blank before each. -/
def separated (texts : List Bytes) : Bytes := texts.flatMap fun text => ", " ++ text

theorem separated_cons (text : Bytes) (texts : List Bytes) :
    separated (text :: texts) = 0x2C :: 0x20 :: (text ++ separated texts) := by
  have hcomma : (", " : Bytes) = [0x2C, 0x20] := by decide
  rw [separated, List.flatMap_cons, hcomma]
  simp [separated, hcomma]

theorem append_join_eq_separated (text : Bytes) (texts : List Bytes) :
    ", " ++ Bytes.join ", " (text :: texts) = separated (text :: texts) := by
  induction texts generalizing text with
  | nil => simp [Bytes.join, separated]
  | cons next texts ih =>
      rw [Bytes.join, separated, List.flatMap_cons, ← separated, ← ih next]
      simp

theorem ended_cons {b : UInt8} (h : b ∈ Bytes.ofString ">),") (rest : Bytes) :
    Ended (b :: rest) := by
  intro c hc
  obtain rfl := Option.some.inj hc
  exact h

/-- Behind an element of a tuple there is another one or the end of the tuple. -/
theorem ended_separated (texts : List Bytes) (r : Bytes) :
    Ended (separated texts ++ 0x29 :: r) := by
  cases texts with
  | nil => exact ended_cons (by decide) r
  | cons text texts =>
      rw [separated_cons]
      exact ended_cons (by decide) _

section

variable {path : Bytes} (hpath : path = [] ∨ RustPath.isPath path = true)
include hpath

theorem isInner_path : ∀ b ∈ path, IsInner b := by
  obtain rfl | hpath := hpath
  · simp
  · have hbytes : ∀ b ∈ Bytes.ofString "<>(),", RustPath.isPathByte b = false :=
      List.all_iff_forall_prop.mp (by decide)
    intro b hb hmark
    have hbyte := RustPath.isPathByte_of_isPath hpath b hb
    rw [hbytes b hmark] at hbyte
    cases hbyte

theorem isInner_reference {service name : Bytes} (h : Telling (.reference service name)) :
    ∀ b ∈ typeText path (.reference service name), IsInner b := by
  have hcolons : ∀ b ∈ Bytes.ofString "::", IsInner b :=
    List.all_iff_forall_prop.mp (by decide)
  have hnames : ∀ b ∈ memberIdent service ++ "::" ++ name, IsInner b := by
    refine List.forall_mem_append.mpr ⟨List.forall_mem_append.mpr ⟨?_, hcolons⟩, ?_⟩
    · intro b hb
      exact isInner_of_not_mem_delimiters (not_mem_delimiters_of_mem_memberIdent service b hb)
    · intro b hb
      exact isInner_of_not_mem_delimiters (h.names name (by simp [ServiceType.classNames]) b hb)
  rw [typeText]
  unfold Code.qualify
  split
  · exact hnames
  · exact List.forall_mem_append.mpr
      ⟨List.forall_mem_append.mpr ⟨isInner_path hpath, hcolons⟩, hnames⟩

theorem isInner_leaf {t : ServiceType} (hleaf : IsKnownLeaf t) (h : Telling t) :
    ∀ b ∈ typeText path t, IsInner b := by
  cases hleaf with
  | primitive p =>
      rw [typeText]
      exact isInner_primitive p
  | reference service name => exact isInner_reference hpath h

/-- A known leaf can be told from every other type and from what follows it. -/
theorem leaf_append_inj {t u : ServiceType} (hleaf : IsKnownLeaf t) (ht : Telling t)
    (hu : Telling u) {r s : Bytes} (hr : Ended r) (hs : Ended s)
    (h : typeText path t ++ r = typeText path u ++ s) : SameStructure t u ∧ r = s := by
  have hinner := isInner_leaf hpath hleaf ht
  obtain hleaf' | ⟨us, rfl⟩ | ⟨v, rfl⟩ := hu.cases
  · obtain ⟨htext, hrest⟩ := append_inj_of_kind hinner (isInner_leaf hpath hleaf' hu)
      hr.not_isInner hs.not_isInner h
    exact ⟨sameStructure_of_leaf_eq hleaf hleaf' htext, hrest⟩
  · rw [typeText_tuple_append, ← List.nil_append (_ :: _)] at h
    exact absurd h (append_ne_of_opening hinner hr (by simp) (by decide))
  · rw [typeText_list_append] at h
    have hvec : ∀ b ∈ Bytes.ofString "Vec", IsInner b := List.all_iff_forall_prop.mp (by decide)
    exact absurd h (append_ne_of_opening hinner hr hvec (by decide))

/-- No type begins as a tuple ends. -/
theorem typeText_begins {t : ServiceType} (h : Telling t) :
    ∃ b rest, typeText path t = b :: rest ∧ b ≠ 0x29 := by
  obtain hleaf | ⟨ts, rfl⟩ | ⟨u, rfl⟩ := h.cases
  · obtain ⟨b, rest, hcons⟩ := List.exists_cons_of_ne_nil (leaf_text_ne_nil path hleaf)
    refine ⟨b, rest, hcons, ?_⟩
    rintro rfl
    exact isInner_leaf hpath hleaf h 0x29 (by simp [hcons]) (by decide)
  · rw [← List.append_nil (typeText path (.tuple ts)), typeText_tuple_append]
    exact ⟨_, _, rfl, by decide⟩
  · rw [← List.append_nil (typeText path (.list u)), typeText_list_append]
    exact ⟨_, _, rfl, by decide⟩

/-- Two tuples of one text have elements both or neither. -/
theorem separated_of_joined {ts us : List ServiceType} (hts : ∀ t ∈ ts, Telling t)
    (hus : ∀ u ∈ us, Telling u) {r s : Bytes}
    (h : Bytes.join ", " (typeTexts path ts) ++ 0x29 :: r =
      Bytes.join ", " (typeTexts path us) ++ 0x29 :: s) :
    separated (typeTexts path ts) ++ 0x29 :: r = separated (typeTexts path us) ++ 0x29 :: s := by
  have hne : ∀ {t : ServiceType} {ts : List ServiceType} {r s : Bytes}, Telling t →
      Bytes.join ", " (typeTexts path (t :: ts)) ++ r ≠ 0x29 :: s := by
    intro t ts r s ht h
    obtain ⟨b, rest, hb, hclose⟩ := typeText_begins hpath ht
    have hcomma : Bytes.join ", " (typeTexts path (t :: ts)) =
        (typeText path t ++ separated (typeTexts path ts)) := by
      have heq := append_join_eq_separated (typeText path t) (typeTexts path ts)
      rw [separated_cons] at heq
      exact (List.cons.inj (List.cons.inj heq).2).2
    rw [hcomma, hb] at h
    exact hclose (List.cons.inj h).1
  cases ts with
  | nil =>
      cases us with
      | nil => exact h
      | cons u us => exact absurd h.symm (hne (hus u (by simp)))
  | cons t ts =>
      cases us with
      | nil => exact absurd h (hne (hts t (by simp)))
      | cons u us =>
          rw [typeTexts, typeTexts, ← append_join_eq_separated, ← append_join_eq_separated,
            List.append_assoc, List.append_assoc]
          exact congrArg _ h

/-- A type can be told from a known leaf too. -/
theorem append_leaf_inj {t u : ServiceType} (hleaf : IsKnownLeaf u) (ht : Telling t)
    (hu : Telling u) {r s : Bytes} (hr : Ended r) (hs : Ended s)
    (h : typeText path t ++ r = typeText path u ++ s) : SameStructure t u ∧ r = s := by
  obtain ⟨hsame, -⟩ := leaf_append_inj hpath hleaf hu ht hs hr h.symm
  exact leaf_append_inj hpath (hleaf.of_sameStructure hsame) ht hu hr hs h

end

mutual

/-- A type can be told from what follows it inside another type. -/
theorem typeText_append_inj {path : Bytes} (hpath : path = [] ∨ RustPath.isPath path = true) :
    ∀ {t u : ServiceType} {r s : Bytes}, Telling t → Telling u → Ended r → Ended s →
      typeText path t ++ r = typeText path u ++ s → SameStructure t u ∧ r = s
  | .void, _, _, _, ht, _, _, _, _ => absurd ht ServiceType.not_telling_void
  | .unknown code, _, _, _, ht, _, _, _, _ => absurd ht (ServiceType.not_telling_unknown code)
  | .primitive p, _, _, _, ht, hu, hr, hs, h =>
      leaf_append_inj hpath (.primitive p) ht hu hr hs h
  | .reference service name, _, _, _, ht, hu, hr, hs, h =>
      leaf_append_inj hpath (.reference service name) ht hu hr hs h
  | .tuple ts, u, r, s, ht, hu, hr, hs, h => by
      obtain hleaf | ⟨us, rfl⟩ | ⟨v, rfl⟩ := hu.cases
      · exact append_leaf_inj hpath hleaf ht hu hr hs h
      · rw [typeText_tuple_append, typeText_tuple_append] at h
        have hseparated := separated_of_joined hpath ht.element hu.element (List.cons.inj h).2
        obtain ⟨hsame, hrest⟩ := typeTexts_append_inj hpath ht.element hu.element hseparated
        exact ⟨.tuple hsame, hrest⟩
      · rw [typeText_tuple_append, typeText_list_append] at h
        exact absurd (List.cons.inj h).1 (by decide)
  | .list t, u, r, s, ht, hu, hr, hs, h => by
      obtain hleaf | ⟨us, rfl⟩ | ⟨v, rfl⟩ := hu.cases
      · exact append_leaf_inj hpath hleaf ht hu hr hs h
      · rw [typeText_tuple_append, typeText_list_append] at h
        exact absurd (List.cons.inj h).1 (by decide)
      · rw [typeText_list_append, typeText_list_append] at h
        have hitem := (List.cons.inj (List.append_cancel_left h)).2
        obtain ⟨hsame, hrest⟩ :=
          typeText_append_inj hpath ht.item hu.item (ended_cons (by decide) r)
            (ended_cons (by decide) s) hitem
        exact ⟨.list hsame, (List.cons.inj hrest).2⟩

/-- The elements of a tuple can be told up to its end. -/
theorem typeTexts_append_inj {path : Bytes} (hpath : path = [] ∨ RustPath.isPath path = true) :
    ∀ {ts us : List ServiceType} {r s : Bytes}, (∀ t ∈ ts, Telling t) → (∀ u ∈ us, Telling u) →
      separated (typeTexts path ts) ++ 0x29 :: r = separated (typeTexts path us) ++ 0x29 :: s →
      SameStructures ts us ∧ r = s
  | [], [], _, _, _, _, h => ⟨.nil, (List.cons.inj h).2⟩
  | [], _ :: _, _, _, _, _, h => by
      rw [typeTexts, typeTexts, separated_cons] at h
      exact absurd (List.cons.inj h).1 (by decide)
  | _ :: _, [], _, _, _, _, h => by
      rw [typeTexts, typeTexts, separated_cons] at h
      exact absurd (List.cons.inj h).1 (by decide)
  | t :: ts, u :: us, r, s, hts, hus, h => by
      rw [List.forall_mem_cons] at hts hus
      rw [typeTexts, typeTexts, separated_cons, separated_cons] at h
      simp only [List.cons_append, List.append_assoc, List.cons.injEq, true_and] at h
      obtain ⟨hsame, hrest⟩ := typeText_append_inj hpath hts.1 hus.1 (ended_separated _ r)
        (ended_separated _ s) h
      obtain ⟨hsames, hend⟩ := typeTexts_append_inj hpath hts.2 hus.2 hrest
      exact ⟨.cons hsame hsames, hend⟩

end

/-! ## Same text, same structure -/

mutual

theorem typeText_eq_of_sameStructure {path : Bytes} :
    ∀ {t u : ServiceType}, SameStructure t u → typeText path t = typeText path u
  | _, _, .primitive => rfl
  | _, _, .tuple h => by rw [typeText, typeText, typeTexts_eq_of_sameStructures h]
  | _, _, .list h => by rw [typeText, typeText, typeText_eq_of_sameStructure h]
  | _, _, .reference h => by rw [typeText, typeText, h]

theorem typeTexts_eq_of_sameStructures {path : Bytes} :
    ∀ {ts us : List ServiceType}, SameStructures ts us → typeTexts path ts = typeTexts path us
  | _, _, .nil => rfl
  | _, _, .cons h hs => by
      rw [typeTexts, typeTexts, typeText_eq_of_sameStructure h, typeTexts_eq_of_sameStructures hs]

end

/-- Types whose text can tell them have the same text exactly if they are built alike: with the same
tuples and lists, from the same primitives and from classes of the same name, in services that have
the same module. -/
theorem typeText_eq_iff_sameStructure {path : Bytes}
    (hpath : path = [] ∨ RustPath.isPath path = true) {t u : ServiceType} (ht : Telling t)
    (hu : Telling u) : typeText path t = typeText path u ↔ SameStructure t u := by
  constructor
  · intro h
    have hended : Ended [] := by
      intro b hb
      cases hb
    exact (typeText_append_inj hpath ht hu hended hended (congrArg (· ++ []) h)).1
  · exact typeText_eq_of_sameStructure

/-- Two services with one module, and pairs that are nested differently. -/
theorem typeText_eq_iff_sameStructure_nested :
    SameStructure (.list (.tuple [.reference "SpaceCenter" "Vessel", .primitive .bool]))
        (.list (.tuple [.reference "space_center" "Vessel", .primitive .bool])) ∧
      typeText "crate::services" (.tuple [.tuple [.primitive .bool, .primitive .float],
          .primitive .string]) ≠
        typeText "crate::services" (.tuple [.primitive .bool,
          .tuple [.primitive .float, .primitive .string]]) := by
  have hpath : Bytes.ofString "crate::services" = [] ∨
      RustPath.isPath (Bytes.ofString "crate::services") = true := by decide
  have hvessel : ∀ b ∈ Bytes.ofString "Vessel", b ∉ delimiters :=
    List.all_iff_forall_prop.mp (by decide)
  have hcamel : Telling (.list (.tuple [.reference "SpaceCenter" "Vessel", .primitive .bool])) :=
    ⟨by simp [ServiceType.leaves, ServiceType.leavesAll], List.forall_mem_singleton.mpr hvessel⟩
  have hsnake : Telling (.list (.tuple [.reference "space_center" "Vessel", .primitive .bool])) :=
    ⟨by simp [ServiceType.leaves, ServiceType.leavesAll], List.forall_mem_singleton.mpr hvessel⟩
  have hleft : Telling (.tuple [.tuple [.primitive .bool, .primitive .float],
      .primitive .string]) :=
    ⟨by simp [ServiceType.leaves, ServiceType.leavesAll], List.forall_mem_nil _⟩
  have hright : Telling (.tuple [.primitive .bool,
      .tuple [.primitive .float, .primitive .string]]) :=
    ⟨by simp [ServiceType.leaves, ServiceType.leavesAll], List.forall_mem_nil _⟩
  refine ⟨(typeText_eq_iff_sameStructure hpath hcamel hsnake).mp (by decide), ?_⟩
  intro h
  cases (typeText_eq_iff_sameStructure hpath hleft hright).mp h with
  | tuple helements =>
      cases helements with
      | cons hfirst _ => cases hfirst

end Binding

end RpcBindings
