import Mathlib.Data.List.Forall2
import RpcBindings.Proofs.Binding.Composition
import RpcBindings.Proofs.Document.Conformance

/-!
# Methods keep the positions of parameters (SPEC §4.3, §13)

A call names no parameters, so what a document says about the `i`th parameter of a procedure has to
arrive at the `i`th argument of its method, and the call in the method has to pass that argument on
as the `i`th.  The two ends are the JSON value that a document is read from and the functions in the
module of a service: `MethodFor` says which function is right for which member, and `BlockFor` which
functions are right for a service.

On the way parameters are numbered three times: by the reader (`EachOf`), as arguments of a
function, and as values that its call passes on (`passedFrom`).  The lemmas say that these numbers
agree.
-/

set_option autoImplicit false

namespace RpcBindings.Document

/-! ## Reading one after another -/

section

variable {α β : Type} {R : Nat → α → β → List Warning → Prop} {i : Nat} {as : List α} {bs : List β}
  {ws : List Warning}

theorem EachOf.forall₂ {S : α → β → Prop} (h : EachOf R i as bs ws)
    (hR : ∀ i a b us, R i a b us → S a b) : List.Forall₂ S as bs := by
  induction h with
  | nil => exact .nil
  | cons ha _ ih => exact .cons (hR _ _ _ _ ha) ih

theorem EachOf.length_eq (h : EachOf R i as bs ws) : bs.length = as.length := by
  induction h with
  | nil => rfl
  | cons _ _ ih => rw [List.length_cons, List.length_cons, ih]

/-- What is read at a position comes from what stands there. -/
theorem EachOf.getElem? (h : EachOf R i as bs ws) {k : Nat} {a : α} {b : β} (ha : as[k]? = some a)
    (hb : bs[k]? = some b) : ∃ us, R (i + k) a b us := by
  induction h generalizing k with
  | nil => simp at ha
  | @cons i _ _ _ _ us _ hfirst _ ih =>
      cases k with
      | zero =>
          obtain rfl := Option.some.inj ha
          obtain rfl := Option.some.inj hb
          exact ⟨us, hfirst⟩
      | succ k =>
          rw [Nat.add_succ, ← Nat.succ_add]
          exact ih ha hb

end

end RpcBindings.Document

namespace RpcBindings.Code

/-! ## Blocks of functions -/

/-- The type and the functions of a block. -/
def Item.block? : Item → Option (Bytes × List Function)
  | .implementation target functions => some (target, functions)
  | _ => none

/-- The blocks of functions in a module. -/
def Item.blocks : Item → List (Bytes × List Function)
  | .module _ _ _ items => items.filterMap Item.block?
  | _ => []

end RpcBindings.Code

namespace RpcBindings.Binding

open RpcBindings.Bytes (Sorts)
open RpcBindings.Code (Argument Function)
open RpcBindings.Document
open RpcBindings.Json (Members)

/-- The values of arguments as a call passes them on, each with its position. -/
def passed (arguments : List Argument) : List Bytes :=
  arguments.mapIdx fun i a => a.name ++ ".to_argument(" ++ decimal i ++ ")"

/-- The argument for the `i`th parameter of the procedure at a place. -/
def ArgumentFor (setup : Setup) (file service : Bytes) (place : Place) (i : Nat) (v : Json)
    (a : Argument) : Prop :=
  ∃ members name u t ws, v = .object members ∧ First members "name" (.string name) ∧
    First members "type" u ∧
    TypeOf file service ((place.item "parameters" i).sub "type") u t ws ∧
    a = ⟨Name.memberIdent name, typeText setup.servicesPath t⟩

/-- The result of a function in its head: nothing when the function has none. -/
def clause (result : Bytes) : Bytes := if result = [] then [] else " -> " ++ result

/-- The method for the procedure of some name that has these members and, among them, these
parameters. -/
structure MethodFor (setup : Setup) (file service procedure : Bytes) (members : Members)
    (items : List Json) (f : Function) : Prop where
  name : f.name = Name.memberIdent procedure
  signature : f.signature = "pub fn " ++ f.name ++ "(" ++
    Bytes.join ", " (Bytes.ofString "&self" :: f.arguments.map Argument.text) ++ ")" ++
    clause f.result
  count : f.arguments.length = items.length
  arguments : ∀ i v a, items[i]? = some v → f.arguments[i]? = some a →
    ArgumentFor setup file service [service, "procedures", procedure] i v a
  result :
    (∃ v t ws, First members "return_type" v ∧
      TypeOf file service [service, "procedures", procedure, "return_type"] v t ws ∧
      f.result = typeText setup.servicesPath t) ∨
    (Lacks members "return_type" ∧ f.result = [])
  body :
    let call : List Bytes :=
      ["let request = " ++ Code.qualify setup.schemaPath "Request" ++ "::from(" ++
          setup.clientPath ++ "::proc_call(",
        "\t" ++ literal service ++ ",",
        "\t" ++ literal procedure ++ ",",
        "\tvec![" ++ Bytes.join ", " (passed f.arguments) ++ "],",
        "));"]
    let response : List Bytes := ["", "let response = self.client.call(request);"]
    let shown : List Bytes := if setup.debugResponses then ["dbg!(&response);"] else []
    let answer : List Bytes := ["", "response.into()"]
    f.body = call ++ response ++ shown ++ answer

/-- The block of functions for a service of some name, whose procedures are these in this order. -/
structure BlockFor (setup : Setup) (file name : Bytes) (procedures : Members) (s : Service) :
    Prop where
  /-- The module has one block: a function that makes the structure, and one method for each
  procedure whose name is in type style. -/
  functions : ∃ make methods,
    (module setup s).blocks = [(Name.typeStyle name, make :: methods)] ∧
    make.name = Bytes.ofString "new" ∧
    List.Forall₂
      (fun p f => ∃ members items, p.2 = .object members ∧
        First members "parameters" (.array items) ∧
        MethodFor setup file name p.1 members items f)
      (procedures.filter fun p => Name.isTypeStyle p.1) methods
  bound : (bound s).length = (procedures.filter fun p => Name.isTypeStyle p.1).length
  skipped : skipped s = (procedures.filter fun p => !Name.isTypeStyle p.1).length

/-- The module of the service is right for the member of a document: its functions follow the
procedures in increasing order of their names. -/
def ModuleFor (setup : Setup) (file : Bytes) (m : Bytes × Json) (s : Service) : Prop :=
  ∃ members procedures procedures', m.2 = .object members ∧
    First members "procedures" (.object procedures) ∧ Sorts Prod.fst procedures procedures' ∧
    BlockFor setup file m.1 procedures' s

section

variable {file service : Bytes}

/-- A call passes its arguments on in their order, numbered as they stand. -/
theorem passedFrom_eq_mapIdx (i : Nat) (arguments : List Argument) :
    passedFrom i arguments =
      arguments.mapIdx fun k a => a.name ++ ".to_argument(" ++ decimal (i + k) ++ ")" := by
  induction arguments generalizing i with
  | nil => rfl
  | cons a rest ih =>
      rw [passedFrom, ih, List.mapIdx_cons]
      simp only [Nat.add_zero, Nat.add_assoc, Nat.add_comm 1]

theorem passedFrom_zero (arguments : List Argument) :
    passedFrom 0 arguments = passed arguments := by
  rw [passedFrom_eq_mapIdx, passed]
  simp only [Nat.zero_add]

/-- The only block in the module of a service holds its functions. -/
theorem blocks_module (setup : Setup) (s : Service) :
    (module setup s).blocks = [(Name.typeStyle s.name, functions setup s)] := by
  have hdirectives : (s.classes.map (classDirective setup.schemaPath) ++
      s.enumerations.map fun e => enumDirective setup.schemaPath e.name e.values).filterMap
        Code.Item.block? = [] := by
    rw [List.filterMap_eq_nil_iff]
    intro item hitem
    obtain hitem | hitem := List.mem_append.mp hitem
    · obtain ⟨name, _, rfl⟩ := List.mem_map.mp hitem
      rfl
    · obtain ⟨e, _, rfl⟩ := List.mem_map.mp hitem
      rfl
  rw [module, Code.Item.blocks, List.filterMap_cons, List.filterMap_append, hdirectives]
  rfl

theorem signature_eq {f : Function} (hvisibility : f.visibility = "pub")
    (hself : f.borrowsSelf = true) :
    f.signature = "pub fn " ++ f.name ++ "(" ++
      Bytes.join ", " (Bytes.ofString "&self" :: f.arguments.map Argument.text) ++ ")" ++
      clause f.result := by
  have hparameters : f.parameters = Bytes.ofString "&self" :: f.arguments.map Argument.text := by
    rw [Function.parameters, hself]
    rfl
  have hvisible : Code.visible f.visibility ++ "fn " = Bytes.ofString "pub fn " := by
    rw [hvisibility]
    rfl
  rw [Function.signature, hparameters, hvisible]
  cases f.result with
  | nil => simp [clause]
  | cons b result => simp [clause]

theorem methodFor_of_procedureOf (setup : Setup) {m : Bytes × Json} {p : Procedure}
    {ws : List Warning} (h : ProcedureOf file service m p ws) :
    ∃ members items, m.2 = .object members ∧ First members "parameters" (.array items) ∧
      MethodFor setup file service m.1 members items (method setup service p) := by
  obtain ⟨members, items, us, vs, hm, hitems, hparameters, hresult, hname, _⟩ := h
  refine ⟨members, items, hm, hitems, ?_, signature_eq rfl rfl, ?_, ?_, ?_, ?_⟩
  · rw [method, hname]
  · rw [method, methodArguments, List.length_map, hparameters.length_eq]
  · intro i v a hv ha
    rw [method, methodArguments, List.getElem?_map, Option.map_eq_some_iff] at ha
    obtain ⟨q, hq, rfl⟩ := ha
    obtain ⟨ws', inner, u, rfl, hqname, hu, ht⟩ := hparameters.getElem? hv hq
    rw [Nat.zero_add] at ht
    exact ⟨inner, q.name, u, q.type, ws', rfl, hqname, hu, ht, rfl⟩
  · obtain ⟨v, hfirst, ht⟩ | ⟨hlacks, hvoid, _⟩ := hresult
    · exact .inl ⟨v, p.result, vs, hfirst, ht, rfl⟩
    · refine .inr ⟨hlacks, ?_⟩
      rw [method, hvoid, typeText]
  · rw [method, methodBody, passedFrom_zero, hname]
    simp

/-- The members that are read as procedures and the methods of the service go together, name by
name. -/
theorem forall₂_bound {procedures : Members} {s : Service} {ws : List Warning}
    (h : EachOf (fun _ => ProcedureOf file service) 0 procedures s.procedures ws) :
    List.Forall₂ (fun m p => m.1 = p.name ∧ ∃ us, ProcedureOf file service m p us)
      (procedures.filter fun m => Name.isTypeStyle m.1) (bound s) := by
  have hall : List.Forall₂ (fun m p => m.1 = p.name ∧ ∃ us, ProcedureOf file service m p us)
      procedures s.procedures := by
    refine h.forall₂ fun _ m p us hp => ⟨?_, us, hp⟩
    obtain ⟨_, _, _, _, _, _, _, _, hname, _⟩ := hp
    exact hname.symm
  refine List.rel_filter ?_ hall
  intro m p hp
  show Name.isTypeStyle m.1 = true ↔ Name.isTypeStyle p.name = true
  rw [hp.1]

theorem moduleFor_of_serviceOf (setup : Setup) {m : Bytes × Json} {s : Service}
    {ws : List Warning} (h : ServiceOf file m s ws) : ModuleFor setup file m s := by
  obtain ⟨members, _, _, procedures, _, _, procedures', hm, _, _, _, _, _, _, hfirst, hsorts,
    hprocedures, hname, _⟩ := h
  have hbound := forall₂_bound hprocedures
  have hcount := hbound.length_eq
  refine ⟨members, procedures, procedures', hm, hfirst, hsorts, ?_, hcount.symm, ?_⟩
  · refine ⟨constructor setup, (bound s).map (method setup s.name), ?_, rfl, ?_⟩
    · rw [blocks_module, functions, hname]
    · rw [List.forall₂_map_right_iff, hname]
      exact hbound.imp fun m p ⟨_, _, hp⟩ => methodFor_of_procedureOf setup hp
  · have hall := bound_add_skipped s
    have hparts := List.length_eq_length_filter_add (l := procedures') fun m => Name.isTypeStyle m.1
    have hread := hprocedures.length_eq
    omega

end

/-- Positions are kept from the document to the code.  The module of each service has one block of
functions, with a method for each procedure whose name is in type style, in increasing order of the
names; the `i`th argument of a method, and the `i`th value that its call passes on, is the one for
the `i`th parameter of the procedure. -/
theorem module_keeps_positions {allowance : Allowance} {file data : Bytes} {d : Document}
    (h : (Generation.readDocument allowance file data).1 = .ok d) (setup : Setup) :
    ∃ services services', Json.IsText data (.object services) ∧
      Sorts Prod.fst services services' ∧
      List.Forall₂ (ModuleFor setup file) services' d.services := by
  obtain ⟨_, v, hv, services, services', rfl, hsorts, hservices, _⟩ :=
    Generation.readDocument_eq_ok_iff.mp (Prod.ext h rfl)
  refine ⟨services, services', hv, hsorts, ?_⟩
  exact hservices.forall₂ fun _ m s us hs => moduleFor_of_serviceOf setup hs

set_option maxRecDepth 4000 in
/-- The procedure that stands last comes first, and the other has no method. -/
theorem module_keeps_positions_of_two :
    let data : Bytes :=
      "\x7b\"S\":\x7b\"classes\":\x7b\x7d,\"enumerations\":\x7b\x7d,\"procedures\":\x7b" ++
      "\"b\":\x7b\"parameters\":[]\x7d,\"A\":\x7b\"parameters\":[" ++
      "\x7b\"name\":\"x\",\"type\":\x7b\"code\":\"BOOL\"\x7d\x7d," ++
      "\x7b\"name\":\"y\",\"type\":\x7b\"code\":\"FLOAT\"\x7d\x7d]\x7d\x7d\x7d\x7d"
    ∃ d, (Generation.readDocument (.checks 1) "a.json" data).1 = .ok d ∧
      (d.services.flatMap fun s => (bound s).map fun p =>
        passed (methodArguments Setup.default p)) =
          [["x.to_argument(0)", "y.to_argument(1)"].map Bytes.ofString] ∧
      ∃ services services', Json.IsText data (.object services) ∧
        Sorts Prod.fst services services' ∧
        List.Forall₂ (ModuleFor Setup.default "a.json") services' d.services := by
  intro data
  have hfirst {members : Members} {key : Bytes} {v : Json}
      (h : Json.member? key members = some v) : First members key v := member?_eq_some_iff.mp h
  let parameter (name code : Bytes) : Json :=
    .object [("name", .string name), ("type", .object [("code", .string code)])]
  let a : Json := .object [("parameters", .array [parameter "x" "BOOL", parameter "y" "FLOAT"])]
  let b : Json := .object [("parameters", .array [])]
  have hparameter {place : Place} {i : Nat} (name : Bytes) (p : Primitive) :
      ParameterOf "a.json" "S" place i (parameter name p.code) ⟨name, .primitive p⟩ [] :=
    ⟨_, _, rfl, hfirst rfl, hfirst rfl, .primitive p (hfirst rfl)⟩
  have hlacks {v : Json} : Lacks [("parameters", v)] "return_type" :=
    member?_eq_none_iff.mp rfl
  have ha : ProcedureOf "a.json" "S" ("A", a)
      ⟨"A", [⟨"x", .primitive .bool⟩, ⟨"y", .primitive .float⟩], .void⟩ [] :=
    ⟨_, _, [], [], rfl, hfirst rfl,
      .cons (hparameter "x" .bool) (.cons (hparameter "y" .float) .nil),
      .inr ⟨hlacks, rfl, rfl⟩, rfl, rfl⟩
  have hb : ProcedureOf "a.json" "S" ("b", b) ⟨"b", [], .void⟩ [] :=
    ⟨_, _, [], [], rfl, hfirst rfl, .nil, .inr ⟨hlacks, rfl, rfl⟩, rfl, rfl⟩
  have hsorts : Sorts Prod.fst [(Bytes.ofString "b", b), (Bytes.ofString "A", a)]
      [(Bytes.ofString "A", a), (Bytes.ofString "b", b)] := by
    have hle : Bytes.ofString "A" ≤ Bytes.ofString "b" := by decide
    have hne : Bytes.ofString "A" ≠ Bytes.ofString "b" := by decide
    refine ⟨List.pairwise_pair.mpr hle, ?_⟩
    intro k
    by_cases hk : Bytes.ofString "A" = k
    · simp [← hk, hne.symm]
    · simp [List.filter_cons, hk]
  have hdata : Json.IsText data (.object [("S", .object [("classes", .object []),
      ("enumerations", .object []), ("procedures", .object [("b", b), ("A", a)])])]) :=
    Json.parse?_eq_some_iff.mp rfl
  have hdocument := describes_of_procedures hdata hsorts (.cons ha (.cons hb .nil))
  have hcheck : (Allowance.checks 1).check = .ok (.checks 0) := rfl
  have hread := congrArg Prod.fst (Generation.readDocument_eq_ok_iff.mpr ⟨hcheck, hdocument⟩)
  exact ⟨_, hread, rfl, module_keeps_positions hread Setup.default⟩

end RpcBindings.Binding
