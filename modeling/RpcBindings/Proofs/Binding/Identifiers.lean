import RpcBindings.Binding.Module
import RpcBindings.Proofs.Name.Keywords

/-!
# Identifiers of a module (SPEC §4.1, §4.3)

The names that code declares, each with the place where it stands.  In the module of a service all of
them but two are escaped where they are written.  The two are the name of the structure and the type
that the functions belong to.  Both are in type style, so a keyword among the identifiers is `Self`,
and it stands at these two places together when the service's name is spelled that way.
-/

set_option autoImplicit false

namespace RpcBindings.Code

/-- Where an identifier stands. -/
inductive Site where
  | module
  | struct
  | field
  /-- The type that a block of functions belongs to. -/
  | target
  | function
  | argument
  deriving DecidableEq, Repr

/-- The identifiers in the head of a function. -/
def Function.identifiers (f : Function) : List (Site × Bytes) :=
  (.function, f.name) :: f.arguments.map fun a => (.argument, a.name)

mutual

/-- The identifiers that an item declares, in their order.  What stands in raw text and what a macro
makes of its arguments is not looked at. -/
def Item.identifiers : Item → List (Site × Bytes)
  | .raw _ => []
  | .module _ name _ items => (.module, name) :: identifiersAll items
  | .struct _ name fields => (.struct, name) :: fields.map fun f => (.field, f.name)
  | .macroCall _ _ => []
  | .implementation target functions => (.target, target) :: functions.flatMap Function.identifiers

/-- The identifiers that items declare. -/
def identifiersAll : List Item → List (Site × Bytes)
  | [] => []
  | item :: rest => item.identifiers ++ identifiersAll rest

end

theorem identifiersAll_append (xs ys : List Item) :
    identifiersAll (xs ++ ys) = identifiersAll xs ++ identifiersAll ys := by
  induction xs with
  | nil => rfl
  | cons item xs ih => rw [List.cons_append, identifiersAll, ih, ← List.append_assoc, identifiersAll]

theorem identifiersAll_of_macroCalls {items : List Item}
    (h : ∀ item ∈ items, item.isMacroCall = true) : identifiersAll items = [] := by
  induction items with
  | nil => rfl
  | cons item items ih =>
      have hitem : item.identifiers = [] := by
        cases item with
        | macroCall path arguments => rfl
        | raw text => cases h _ List.mem_cons_self
        | module visibility name uses inner => cases h _ List.mem_cons_self
        | struct visibility name fields => cases h _ List.mem_cons_self
        | implementation target functions => cases h _ List.mem_cons_self
      rw [identifiersAll, hitem, ih fun other hother => h other (List.mem_cons_of_mem _ hother)]
      rfl

end RpcBindings.Code

namespace RpcBindings.Binding

open RpcBindings.Code (Site Function)
open RpcBindings.Name (IsKeyword SpellsSelf selfName)

section

variable {setup : Setup} {s : Service} {site : Site} {name : Bytes}

/-- The module of a service declares itself, its structure, and what its functions do. -/
theorem identifiers_module (setup : Setup) (s : Service) :
    (module setup s).identifiers =
      [(.module, Name.memberIdent s.name), (.struct, Name.typeStyle s.name), (.field, "client"),
        (.target, Name.typeStyle s.name)] ++ (functions setup s).flatMap Function.identifiers := by
  have hdirectives : Code.identifiersAll (s.classes.map (classDirective setup.schemaPath) ++
      s.enumerations.map fun e => enumDirective setup.schemaPath e.name e.values) = [] := by
    apply Code.identifiersAll_of_macroCalls
    intro item hitem
    obtain hitem | hitem := List.mem_append.mp hitem
    · obtain ⟨name, _, rfl⟩ := List.mem_map.mp hitem
      rfl
    · obtain ⟨e, _, rfl⟩ := List.mem_map.mp hitem
      rfl
  rw [module, Code.Item.identifiers, Code.identifiersAll, Code.identifiersAll_append, hdirectives,
    List.nil_append, Code.identifiersAll, Code.identifiersAll, List.append_nil]
  rfl

/-- No identifier in the head of a function is a keyword. -/
theorem not_isKeyword_of_mem_functions {f : Function} (hf : f ∈ functions setup s)
    (h : (site, name) ∈ f.identifiers) : ¬ IsKeyword name := by
  obtain hmake | hmethod := List.mem_cons.mp hf
  · rw [hmake, Function.identifiers] at h
    simp only [constructor, List.map_cons, List.map_nil, List.mem_cons, List.not_mem_nil,
      or_false, Prod.mk.injEq] at h
    obtain ⟨-, rfl⟩ | ⟨-, rfl⟩ := h
    · decide
    · decide
  · obtain ⟨p, -, rfl⟩ := List.mem_map.mp hmethod
    obtain hname | hargument := List.mem_cons.mp h
    · rw [(Prod.mk.inj hname).2]
      exact Name.not_isKeyword_memberIdent p.name
    · obtain ⟨a, ha, heq⟩ := List.mem_map.mp hargument
      obtain ⟨q, -, rfl⟩ := List.mem_map.mp ha
      rw [← (Prod.mk.inj heq).2]
      exact Name.not_isKeyword_memberIdent q.name

/-- The keywords among the identifiers of a module are the name of the structure and the type of the
functions, where the name of the service is a spelling of `Self`. -/
theorem keyword_identifier_iff (setup : Setup) (s : Service) (site : Site) (name : Bytes) :
    (site, name) ∈ (module setup s).identifiers ∧ IsKeyword name ↔
      name = selfName ∧ (site = .struct ∨ site = .target) ∧
        SpellsSelf (Name.separateRunes (Utf8.runes s.name)) := by
  rw [identifiers_module, ← Name.typeStyle_eq_selfName_iff]
  constructor
  · rintro ⟨hmem, hkeyword⟩
    obtain hmem | hmem := List.mem_append.mp hmem
    · simp only [List.mem_cons, List.not_mem_nil, or_false, Prod.mk.injEq] at hmem
      obtain ⟨-, rfl⟩ | ⟨rfl, rfl⟩ | ⟨-, rfl⟩ | ⟨rfl, rfl⟩ := hmem
      · exact absurd hkeyword (Name.not_isKeyword_memberIdent s.name)
      · have hself := Name.isKeyword_typeStyle_iff.mp hkeyword
        exact ⟨hself, .inl rfl, hself⟩
      · exact absurd hkeyword (by decide)
      · have hself := Name.isKeyword_typeStyle_iff.mp hkeyword
        exact ⟨hself, .inr rfl, hself⟩
    · obtain ⟨f, hf, h⟩ := List.mem_flatMap.mp hmem
      exact absurd hkeyword (not_isKeyword_of_mem_functions hf h)
  · rintro ⟨rfl, hsite, hself⟩
    refine ⟨List.mem_append_left _ ?_, hself ▸ Name.isKeyword_typeStyle_iff.mpr hself⟩
    obtain rfl | rfl := hsite
    · simp [hself]
    · simp [hself]

end

/-- The structure of the service `self` is named by a keyword, though its module is not. -/
theorem struct_of_self_is_keyword :
    let identifiers : List (Site × Bytes) :=
      [(.module, "self_"), (.struct, "Self"), (.field, "client"), (.target, "Self"),
        (.function, "new"), (.argument, "client")]
    (module Setup.default ⟨"self", [], [], [], []⟩).identifiers = identifiers ∧
      IsKeyword "Self" := by
  decide +kernel

end RpcBindings.Binding
