import RpcBindings.Generation.Load
import RpcBindings.Proofs.Document.Decoding

/-!
# Documents that can be read (SPEC §6)

The shape of a document says no more and no less than that the document describes something.  So a
file can be read exactly when its bytes have the shape, and reading it gives what they describe.
-/

set_option autoImplicit false

namespace RpcBindings.Document

open RpcBindings.Json (Members)
open RpcBindings.Bytes (Sorts)

/-! ## Lists -/

/-- All of a list means something as soon as each thing in it does. -/
theorem exists_eachOf_iff {α β : Type} {R : Nat → α → β → List Warning → Prop} {P : α → Prop}
    (h : ∀ i a, (∃ b ws, R i a b ws) ↔ P a) {i : Nat} {as : List α} :
    (∃ bs ws, EachOf R i as bs ws) ↔ ∀ a ∈ as, P a := by
  constructor
  · rintro ⟨bs, ws, heach⟩
    induction heach with
    | nil => simp
    | @cons i a b _ _ us _ ha _ ih =>
        intro c hc
        obtain rfl | hc := List.mem_cons.mp hc
        · exact (h i c).mp ⟨b, us, ha⟩
        · exact ih c hc
  · intro hP
    induction as generalizing i with
    | nil => exact ⟨[], [], .nil⟩
    | cons a as ih =>
        obtain ⟨b, us, ha⟩ := (h i a).mpr (hP a (by simp))
        obtain ⟨bs, vs, has⟩ := ih (fun c hc => hP c (by simp [hc])) (i := i + 1)
        exact ⟨b :: bs, us ++ vs, .cons ha has⟩

theorem exists_forall₂_iff {α β : Type} {R : α → β → Prop} {P : α → Prop}
    (h : ∀ a, (∃ b, R a b) ↔ P a) {as : List α} :
    (∃ bs, List.Forall₂ R as bs) ↔ ∀ a ∈ as, P a := by
  have hsilent : ∀ (i : Nat) (a : α), (∃ b ws, R a b ∧ ws = ([] : List Warning)) ↔ P a := by
    intro _ a
    rw [← h a]
    simp
  rw [← exists_eachOf_iff hsilent (i := 0)]
  simp only [eachOf_silent, exists_and_left, exists_eq, and_true]

/-- Sorting the members of an object keeps what holds of all of them. -/
theorem exists_sorts_and_iff {members : Members} {P : Bytes × Json → Prop}
    {Q : List (Bytes × Json) → Prop} (h : ∀ sorted, Q sorted ↔ ∀ m ∈ sorted, P m) :
    (∃ sorted, Sorts Prod.fst members sorted ∧ Q sorted) ↔ ∀ m ∈ members, P m := by
  constructor
  · rintro ⟨sorted, hsorted, hQ⟩ m hm
    exact (h sorted).mp hQ m ((hsorted.mem_iff m).mpr hm)
  · intro hP
    have hsorted := Bytes.sortOn_sorts Prod.fst members
    refine ⟨_, hsorted, (h _).mpr ?_⟩
    intro m hm
    exact hP m ((hsorted.mem_iff m).mp hm)

/-! ## Types -/

section

variable {file service : Bytes}

theorem primitive_code_ne (p : Primitive) :
    p.code ≠ Bytes.ofString "TUPLE" ∧ p.code ≠ Bytes.ofString "LIST" ∧
      p.code ≠ Bytes.ofString "CLASS" := by
  cases p <;> decide

mutual

theorem TypeOf.isType {place : Place} {v : Json} {t : ServiceType} {ws : List Warning} :
    TypeOf file service place v t ws → IsType v
  | .tuple hcode htypes hitems => .tuple hcode htypes hitems.areTypes
  | .list hcode htypes hfirst => .list hcode htypes hfirst.isType
  | .reference hcode howner hname => .reference hcode howner hname
  | .primitive p hcode =>
      have ⟨htuple, hlist, hclass⟩ := primitive_code_ne p
      .other hcode htuple hlist hclass
  | .unknown hcode htuple hlist hclass _ => .other hcode htuple hlist hclass

theorem TypesOf.areTypes {place : Place} {i : Nat} {items : List Json} {ts : List ServiceType}
    {ws : List Warning} : TypesOf file service place i items ts ws → ∀ v ∈ items, IsType v
  | .nil => by simp
  | .cons hv hvs => List.forall_mem_cons.mpr ⟨hv.isType, hvs.areTypes⟩

end

theorem exists_typesOf {place : Place} {i : Nat} {items : List Json}
    (h : ∀ v ∈ items, ∀ place, ∃ t ws, TypeOf file service place v t ws) :
    ∃ ts ws, TypesOf file service place i items ts ws := by
  induction items generalizing i with
  | nil => exact ⟨[], [], .nil⟩
  | cons v vs ih =>
      obtain ⟨t, us, ht⟩ := h v (by simp) (place.item "types" i)
      obtain ⟨ts, ws, hts⟩ := ih (fun u hu => h u (by simp [hu])) (i := i + 1)
      exact ⟨t :: ts, us ++ ws, .cons ht hts⟩

theorem IsType.exists_typeOf {v : Json} (h : IsType v) (place : Place) :
    ∃ t ws, TypeOf file service place v t ws := by
  induction h generalizing place with
  | tuple hcode htypes _ ih =>
      obtain ⟨ts, ws, hts⟩ := exists_typesOf (i := 0) ih
      exact ⟨.tuple ts, ws, .tuple hcode htypes hts⟩
  | list hcode htypes _ ih =>
      obtain ⟨t, ws, ht⟩ := ih (place.item "types" 0)
      exact ⟨.list t, _, .list hcode htypes ht⟩
  | @reference _ owner name hcode howner hname =>
      exact ⟨.reference owner name, [], .reference hcode howner hname⟩
  | @other _ code hcode htuple hlist hclass =>
      by_cases hp : ∃ p : Primitive, code = p.code
      · obtain ⟨p, rfl⟩ := hp
        exact ⟨.primitive p, [], .primitive p hcode⟩
      · rw [not_exists] at hp
        exact ⟨.unknown code, _, .unknown hcode htuple hlist hclass hp⟩

/-! ## Parts of a service -/

theorem exists_enumerationOf_iff {m : Bytes × Json} :
    (∃ e, EnumerationOf m e) ↔ IsEnumeration m.2 := by
  have hnames : ∀ {items : List Json},
      (∃ names, List.Forall₂ NameOf items names) ↔ ∀ item ∈ items, IsNamed item := by
    refine exists_forall₂_iff ?_
    intro v
    exact exists_comm
  constructor
  · rintro ⟨e, members, items, hm, hitems, hvalues, _⟩
    exact ⟨members, items, hm, hitems, hnames.mp ⟨e.values, hvalues⟩⟩
  · rintro ⟨members, items, hm, hitems, hvalues⟩
    obtain ⟨names, hvalues⟩ := hnames.mpr hvalues
    exact ⟨⟨m.1, names⟩, members, items, hm, hitems, hvalues, rfl⟩

theorem exists_parameterOf_iff {place : Place} {i : Nat} {v : Json} :
    (∃ p ws, ParameterOf file service place i v p ws) ↔ IsParameter v := by
  constructor
  · rintro ⟨p, ws, members, t, hv, hname, ht, htype⟩
    exact ⟨members, p.name, t, hv, hname, ht, htype.isType⟩
  · rintro ⟨members, name, t, hv, hname, ht, htype⟩
    obtain ⟨type, ws, htype⟩ := htype.exists_typeOf ((place.item "parameters" i).sub "type")
    exact ⟨⟨name, type⟩, ws, members, t, hv, hname, ht, htype⟩

theorem exists_resultOf_iff {place : Place} {members : Members} :
    (∃ t ws, ResultOf file service place members t ws) ↔
      ∀ v, First members "return_type" v → IsType v := by
  constructor
  · rintro ⟨t, ws, ⟨u, hu, htype⟩ | ⟨hlacks, _⟩⟩ v hv
    · rw [hv.unique hu]
      exact htype.isType
    · exact absurd hv hlacks.not_first
  · intro h
    cases hm : Json.member? "return_type" members with
    | some v =>
        have hv := member?_eq_some_iff.mp hm
        obtain ⟨t, ws, htype⟩ := (h v hv).exists_typeOf (place.sub "return_type")
        exact ⟨t, ws, .inl ⟨v, hv, htype⟩⟩
    | none => exact ⟨.void, [], .inr ⟨member?_eq_none_iff.mp hm, rfl, rfl⟩⟩

theorem exists_procedureOf_iff {m : Bytes × Json} :
    (∃ p ws, ProcedureOf file service m p ws) ↔ IsProcedure m.2 := by
  have hparameters : ∀ {items : List Json},
      (∃ ps us, EachOf (ParameterOf file service [service, "procedures", m.1]) 0 items ps us) ↔
        ∀ item ∈ items, IsParameter item :=
    exists_eachOf_iff (P := IsParameter) fun _ _ => exists_parameterOf_iff
  constructor
  · rintro ⟨p, ws, members, items, us, vs, hm, hitems, hps, hresult, _⟩
    exact ⟨members, items, hm, hitems, hparameters.mp ⟨_, _, hps⟩,
      exists_resultOf_iff.mp ⟨_, _, hresult⟩⟩
  · rintro ⟨members, items, hm, hitems, hps, hresult⟩
    obtain ⟨ps, us, hps⟩ := hparameters.mpr hps
    obtain ⟨t, vs, hresult⟩ := exists_resultOf_iff.mpr hresult
    exact ⟨⟨m.1, ps, t⟩, us ++ vs, members, items, us, vs, hm, hitems, hps, hresult, rfl, rfl⟩

/-! ## Services and documents -/

theorem exists_serviceOf_iff {m : Bytes × Json} :
    (∃ s ws, ServiceOf file m s ws) ↔ IsService m.2 := by
  have henumerations : ∀ {members : Members},
      (∃ sorted, Sorts Prod.fst members sorted ∧ ∃ es, List.Forall₂ EnumerationOf sorted es) ↔
        ∀ e ∈ members, IsEnumeration e.2 :=
    exists_sorts_and_iff fun _ => exists_forall₂_iff fun _ => exists_enumerationOf_iff
  have hprocedures : ∀ {members : Members},
      (∃ sorted, Sorts Prod.fst members sorted ∧
        ∃ ps ws, EachOf (fun _ => ProcedureOf file m.1) 0 sorted ps ws) ↔
        ∀ p ∈ members, IsProcedure p.2 :=
    exists_sorts_and_iff fun _ =>
      exists_eachOf_iff (P := fun p : Bytes × Json => IsProcedure p.2)
        fun _ _ => exists_procedureOf_iff
  constructor
  · rintro ⟨s, ws, members, classes, enums, procs, classes', enums', procs', hm, hclasses, _, _,
      henums, hsorted, hes, hprocs, hsorted', hps, _⟩
    exact ⟨members, classes, enums, procs, hm, hclasses, henums, hprocs,
      henumerations.mp ⟨enums', hsorted, _, hes⟩, hprocedures.mp ⟨procs', hsorted', _, _, hps⟩⟩
  · rintro ⟨members, classes, enums, procs, hm, hclasses, henums, hprocs, hes, hps⟩
    obtain ⟨enums', hsorted, es, hes⟩ := henumerations.mpr hes
    obtain ⟨procs', hsorted', ps, ws, hps⟩ := hprocedures.mpr hps
    let s : Service :=
      { name := m.1, classes := (Bytes.sortOn Prod.fst classes).map Prod.fst, enumerations := es,
        procedures := ps, file }
    exact ⟨s, ws, members, classes, enums, procs, _, enums', procs', hm, hclasses,
      Bytes.sortOn_sorts _ _, rfl, henums, hsorted, hes, hprocs, hsorted', hps, rfl, rfl⟩

theorem exists_documentOf_iff {v : Json} : (∃ d, DocumentOf file v d) ↔ IsDocument v := by
  have hservices : ∀ {members : Members},
      (∃ sorted, Sorts Prod.fst members sorted ∧
        ∃ ss ws, EachOf (fun _ => ServiceOf file) 0 sorted ss ws) ↔
        ∀ m ∈ members, IsService m.2 :=
    exists_sorts_and_iff fun _ =>
      exists_eachOf_iff (P := fun m : Bytes × Json => IsService m.2) fun _ _ => exists_serviceOf_iff
  constructor
  · rintro ⟨d, members, members', hv, hsorted, hss, _⟩
    exact ⟨members, hv, hservices.mp ⟨members', hsorted, _, _, hss⟩⟩
  · rintro ⟨members, hv, hss⟩
    obtain ⟨members', hsorted, ss, ws, hss⟩ := hservices.mpr hss
    exact ⟨⟨file, ss, ws⟩, members, members', hv, hsorted, hss, rfl⟩

/-- Bytes describe a document exactly when they have the shape of one. -/
theorem exists_describes_iff {data : Bytes} : (∃ d, Describes file data d) ↔ Conforms data := by
  unfold Describes Conforms
  rw [exists_comm]
  simp only [exists_and_left, exists_documentOf_iff]

theorem EachOf.singleton {α β : Type} {R : Nat → α → β → List Warning → Prop} {i : Nat} {a : α}
    {b : β} {ws : List Warning} (h : R i a b ws) : EachOf R i [a] [b] ws := by
  simpa using EachOf.cons h .nil

/-- A text that is about one service with nothing but procedures describes what these describe. -/
theorem describes_of_procedures {data name : Bytes} {procedures procedures' : Members}
    {ps : List Procedure} {ws : List Warning}
    (hdata : Json.IsText data (.object [(name, .object [("classes", .object []),
      ("enumerations", .object []), ("procedures", .object procedures)])]))
    (hsorts : Sorts Prod.fst procedures procedures')
    (h : EachOf (fun _ => ProcedureOf file name) 0 procedures' ps ws) :
    Describes file data ⟨file, [⟨name, [], [], ps, file⟩], ws⟩ := by
  have hnone : Sorts Prod.fst ([] : Members) [] := ⟨.nil, fun _ => rfl⟩
  refine ⟨_, hdata, _, _, rfl, ⟨List.pairwise_singleton _ _, fun _ => rfl⟩, .singleton ?_, rfl⟩
  exact ⟨_, [], [], procedures, [], [], procedures', rfl, member?_eq_some_iff.mp rfl, hnone, rfl,
    member?_eq_some_iff.mp rfl, hnone, .nil, member?_eq_some_iff.mp rfl, hsorts, h, rfl, rfl⟩

end

end RpcBindings.Document

namespace RpcBindings.Generation

open RpcBindings.Document (Conforms Describes IsProcedure IsType member?_eq_some_iff)

theorem readDocument_eq_ok_iff {allowance left : Allowance} {file data : Bytes}
    {document : Document} :
    readDocument allowance file data = (.ok document, left) ↔
      allowance.check = .ok left ∧ Describes file data document := by
  rw [← Document.read_eq_ok_iff]
  unfold readDocument
  cases allowance.check with
  | error why => simp
  | ok next =>
      cases Document.read file data with
      | error v => simp
      | ok read => simp [and_comm]

/-- As long as a run may go on, a file is read exactly when its bytes have the shape of a document,
and what is read is the document that they describe. -/
theorem readDocument_ok_iff_conforms {allowance left : Allowance}
    (h : allowance.check = .ok left) (file data : Bytes) :
    ((∃ d, (readDocument allowance file data).1 = .ok d) ↔ Conforms data) ∧
      ∀ d, (readDocument allowance file data).1 = .ok d ↔ Describes file data d := by
  have hread : ∀ d, (readDocument allowance file data).1 = .ok d ↔ Describes file data d := by
    intro d
    constructor
    · intro hd
      exact (readDocument_eq_ok_iff.mp (Prod.ext hd rfl)).2
    · intro hd
      rw [readDocument_eq_ok_iff.mpr ⟨h, hd⟩]
  refine ⟨?_, hread⟩
  simp only [hread]
  exact Document.exists_describes_iff

set_option maxRecDepth 4000 in
/-- Nothing is asked of what stands behind the first element type of a list. -/
theorem readDocument_list_of_two :
    (Allowance.checks 1).check = .ok (.checks 0) ∧
      ∃ d, (readDocument (.checks 1) "a.json" (Bytes.ofString
        "\x7b\"S\":\x7b\"classes\":\x7b\x7d,\"enumerations\":\x7b\x7d,\"procedures\":\x7b
        \"P\":\x7b\"parameters\":[],\"return_type\":\x7b\"code\":\"LIST\",
        \"types\":[\x7b\"code\":\"X\"\x7d,1]\x7d\x7d\x7d\x7d\x7d")).1 = .ok d := by
  have hreturn : IsType (.object [("code", .string "LIST"),
      ("types", .array [.object [("code", .string "X")], .number "1"])]) := by
    refine .list (member?_eq_some_iff.mp rfl) (member?_eq_some_iff.mp rfl) ?_
    exact .other (member?_eq_some_iff.mp rfl) (by decide) (by decide) (by decide)
  have hprocedure : IsProcedure (.object [("parameters", .array []),
      ("return_type", .object [("code", .string "LIST"),
        ("types", .array [.object [("code", .string "X")], .number "1"])])]) := by
    refine ⟨_, [], rfl, member?_eq_some_iff.mp rfl, by simp, ?_⟩
    intro t ht
    obtain rfl := Option.some.inj (member?_eq_some_iff.mpr ht)
    exact hreturn
  refine ⟨rfl, (readDocument_ok_iff_conforms rfl _ _).1.mpr ?_⟩
  refine ⟨_, Json.parse?_eq_some_iff.mp rfl, _, rfl, ?_⟩
  refine List.forall_mem_singleton.mpr ⟨_, [], [], _, rfl, member?_eq_some_iff.mp rfl,
    member?_eq_some_iff.mp rfl, member?_eq_some_iff.mp rfl, by simp, ?_⟩
  exact List.forall_mem_singleton.mpr hprocedure

end RpcBindings.Generation
