import RpcBindings.Proofs.Document.Grammar

/-!
# Reading is decoding (SPEC §6)

Each reader of a part of a document is shown to end well exactly on the values that describe such a
part, with what they describe and the warnings about it.  A reading that goes on with the result of
another is opened by `Reading.andThen_yields`, so no proof looks into more than one reader.
-/

set_option autoImplicit false

namespace RpcBindings.Document

open RpcBindings.Json (Members)
open RpcBindings.Bytes (Sorts)

/-! ## Readings -/

namespace Reading

variable {α β : Type}

/-- The reading ends well, with a result and warnings. -/
def Yields (x : Reading α) (a : α) (ws : List Warning) : Prop := x = Except.ok (a, ws)

theorem yields_ok {a b : α} {us ws : List Warning} :
    Yields (Except.ok (a, us)) b ws ↔ b = a ∧ ws = us := by
  constructor
  · intro h
    obtain ⟨rfl, rfl⟩ := Prod.mk.inj (Except.ok.inj h)
    exact ⟨rfl, rfl⟩
  · rintro ⟨rfl, rfl⟩
    rfl

theorem done_yields {a b : α} {ws : List Warning} : (done a).Yields b ws ↔ b = a ∧ ws = [] :=
  yields_ok

theorem warn_yields {w : Warning} {u : Unit} {ws : List Warning} :
    (warn w).Yields u ws ↔ u = () ∧ ws = [w] :=
  yields_ok

theorem not_fail_yields {v : Violation} {b : α} {ws : List Warning} :
    ¬ (fail v : Reading α).Yields b ws := by
  intro h
  cases h

theorem andThen_yields {x : Reading α} {f : α → Reading β} {b : β} {ws : List Warning} :
    (andThen x f).Yields b ws ↔ ∃ a us vs, x.Yields a us ∧ (f a).Yields b vs ∧ ws = us ++ vs := by
  constructor
  · intro h
    unfold andThen at h
    split at h
    · exact absurd h not_fail_yields
    · rename_i a us
      split at h
      · exact absurd h not_fail_yields
      · rename_i c vs hfa
        obtain ⟨rfl, rfl⟩ := yields_ok.mp h
        exact ⟨a, us, vs, rfl, hfa, rfl⟩
  · rintro ⟨a, us, vs, rfl, hfa, rfl⟩
    unfold Yields at hfa ⊢
    simp only [andThen, hfa]
    rfl

theorem done_andThen (a : α) (f : α → Reading β) : andThen (done a) f = f a := by
  cases hf : f a with
  | error v =>
      simp only [andThen, done, hf]
      rfl
  | ok p =>
      simp only [andThen, done, hf, List.nil_append]
      rfl

/-- A reading that gives no warning leaves the warnings to what goes on with it. -/
theorem silent_andThen_yields {x : Reading α} {P : α → Prop}
    (hx : ∀ {a : α} {ws : List Warning}, x.Yields a ws ↔ P a ∧ ws = []) {f : α → Reading β} {b : β}
    {ws : List Warning} : (andThen x f).Yields b ws ↔ ∃ a, P a ∧ (f a).Yields b ws := by
  rw [andThen_yields]
  constructor
  · rintro ⟨a, us, vs, ha, hf, rfl⟩
    obtain ⟨hP, rfl⟩ := hx.mp ha
    exact ⟨a, hP, hf⟩
  · rintro ⟨a, hP, hf⟩
    exact ⟨a, [], ws, hx.mpr ⟨hP, rfl⟩, hf, rfl⟩

theorem andThen_done_yields {x : Reading α} {g : α → β} {b : β} {ws : List Warning} :
    (andThen x fun a => done (g a)).Yields b ws ↔ ∃ a, x.Yields a ws ∧ b = g a := by
  rw [andThen_yields]
  constructor
  · rintro ⟨a, us, vs, ha, hdone, rfl⟩
    obtain ⟨hb, rfl⟩ := done_yields.mp hdone
    exact ⟨a, by rwa [List.append_nil], hb⟩
  · rintro ⟨a, ha, rfl⟩
    exact ⟨a, ws, [], ha, rfl, by simp⟩

/-- Reading things one after another reads each of them. -/
theorem each_yields {f : Nat → α → Reading β} {R : Nat → α → β → List Warning → Prop}
    (hf : ∀ i a b ws, (f i a).Yields b ws ↔ R i a b ws) {i : Nat} {as : List α} {bs : List β}
    {ws : List Warning} : (each f i as).Yields bs ws ↔ EachOf R i as bs ws := by
  induction as generalizing i bs ws with
  | nil =>
      rw [each, done_yields]
      constructor
      · rintro ⟨rfl, rfl⟩
        exact .nil
      · intro h
        cases h
        exact ⟨rfl, rfl⟩
  | cons a as ih =>
      rw [each, andThen_yields]
      constructor
      · rintro ⟨b, us, vs, hb, hrest, rfl⟩
        obtain ⟨cs, hcs, rfl⟩ := andThen_done_yields.mp hrest
        exact .cons ((hf i a b us).mp hb) (ih.mp hcs)
      · intro h
        cases h with
        | @cons _ _ b _ cs us vs hb hcs =>
            refine ⟨b, us, vs, (hf i a b us).mpr hb, ?_, rfl⟩
            exact andThen_done_yields.mpr ⟨cs, ih.mpr hcs, rfl⟩

end Reading

/-- Things that are read without a warning. -/
theorem eachOf_silent {α β : Type} {R : α → β → Prop} {i : Nat} {as : List α} {bs : List β}
    {ws : List Warning} :
    EachOf (fun _ a b ws => R a b ∧ ws = []) i as bs ws ↔ List.Forall₂ R as bs ∧ ws = [] := by
  constructor
  · intro h
    induction h with
    | nil => exact ⟨.nil, rfl⟩
    | cons h _ ih => exact ⟨.cons h.1 ih.1, by rw [h.2, ih.2]; rfl⟩
  · rintro ⟨h, rfl⟩
    induction h generalizing i with
    | nil => exact .nil
    | cons h _ ih => exact List.nil_append ([] : List Warning) ▸ .cons ⟨h, rfl⟩ ih

/-! ## Members -/

theorem member?_eq_some_iff {members : Members} {key : Bytes} {v : Json} :
    Json.member? key members = some v ↔ First members key v := by
  induction members with
  | nil => simp [Json.member?, First]
  | cons m rest ih =>
      obtain ⟨k, w⟩ := m
      rw [Json.member?]
      split
      · rename_i hk
        subst hk
        constructor
        · intro h
          obtain rfl := Option.some.inj h
          exact ⟨[], rest, rfl, by simp⟩
        · rintro ⟨before, after, hsplit, hbefore⟩
          cases before with
          | nil =>
              obtain ⟨hm, _⟩ := List.cons.inj hsplit
              rw [(Prod.mk.inj hm).2]
          | cons m before =>
              obtain ⟨hm, _⟩ := List.cons.inj hsplit
              exact absurd (congrArg Prod.fst hm.symm) (hbefore m (by simp))
      · rename_i hk
        rw [ih]
        constructor
        · rintro ⟨before, after, rfl, hbefore⟩
          refine ⟨(k, w) :: before, after, rfl, ?_⟩
          intro m hm
          obtain rfl | hm := List.mem_cons.mp hm
          · exact hk
          · exact hbefore m hm
        · rintro ⟨before, after, hsplit, hbefore⟩
          cases before with
          | nil =>
              obtain ⟨hm, _⟩ := List.cons.inj hsplit
              exact absurd (congrArg Prod.fst hm) hk
          | cons m before =>
              exact ⟨before, after, (List.cons.inj hsplit).2, fun x hx => hbefore x (by simp [hx])⟩

theorem member?_eq_none_iff {members : Members} {key : Bytes} :
    Json.member? key members = none ↔ Lacks members key := by
  induction members with
  | nil => simp [Json.member?, Lacks]
  | cons m rest ih =>
      obtain ⟨k, w⟩ := m
      by_cases hk : k = key
      · simp [Json.member?, Lacks, hk]
      · rw [Json.member?, if_neg hk, ih]
        simp [Lacks, hk]

theorem First.unique {members : Members} {key : Bytes} {v w : Json} (hv : First members key v)
    (hw : First members key w) : v = w := by
  have h : some v = some w :=
    (member?_eq_some_iff.mpr hv).symm.trans (member?_eq_some_iff.mpr hw)
  exact Option.some.inj h

theorem Lacks.not_first {members : Members} {key : Bytes} {v : Json} (h : Lacks members key) :
    ¬ First members key v := by
  rw [← member?_eq_some_iff, member?_eq_none_iff.mpr h]
  simp

section

variable {file : Bytes} {place : Place} {members : Members} {key : Bytes} {ws : List Warning}

theorem required_yields {v : Json} :
    (required file place members key).Yields v ws ↔ First members key v ∧ ws = [] := by
  rw [← member?_eq_some_iff]
  unfold required
  split
  · rename_i u hu
    simp [hu, Reading.done_yields, eq_comm]
  · rename_i hu
    simp [hu, Reading.not_fail_yields]

theorem requiredObject_yields {inner : Members} :
    (requiredObject file place members key).Yields inner ws ↔
      First members key (.object inner) ∧ ws = [] := by
  show Reading.Yields (Reading.andThen _ _) _ _ ↔ _
  rw [Reading.silent_andThen_yields required_yields]
  constructor
  · rintro ⟨v, hfirst, hkind⟩
    split at hkind
    · obtain ⟨rfl, rfl⟩ := Reading.done_yields.mp hkind
      exact ⟨hfirst, rfl⟩
    · exact absurd hkind Reading.not_fail_yields
  · rintro ⟨hfirst, rfl⟩
    exact ⟨_, hfirst, rfl⟩

theorem requiredArray_yields {items : List Json} :
    (requiredArray file place members key).Yields items ws ↔
      First members key (.array items) ∧ ws = [] := by
  show Reading.Yields (Reading.andThen _ _) _ _ ↔ _
  rw [Reading.silent_andThen_yields required_yields]
  constructor
  · rintro ⟨v, hfirst, hkind⟩
    split at hkind
    · obtain ⟨rfl, rfl⟩ := Reading.done_yields.mp hkind
      exact ⟨hfirst, rfl⟩
    · exact absurd hkind Reading.not_fail_yields
  · rintro ⟨hfirst, rfl⟩
    exact ⟨_, hfirst, rfl⟩

theorem requiredString_yields {text : Bytes} :
    (requiredString file place members key).Yields text ws ↔
      First members key (.string text) ∧ ws = [] := by
  show Reading.Yields (Reading.andThen _ _) _ _ ↔ _
  rw [Reading.silent_andThen_yields required_yields]
  constructor
  · rintro ⟨v, hfirst, hkind⟩
    split at hkind
    · obtain ⟨rfl, rfl⟩ := Reading.done_yields.mp hkind
      exact ⟨hfirst, rfl⟩
    · exact absurd hkind Reading.not_fail_yields
  · rintro ⟨hfirst, rfl⟩
    exact ⟨_, hfirst, rfl⟩

theorem membersOf_yields {part : Part} {v : Json} :
    (membersOf file place part v).Yields members ws ↔ v = .object members ∧ ws = [] := by
  unfold membersOf
  split
  · rw [Reading.done_yields]
    simp [eq_comm]
  · rename_i hv
    constructor
    · intro h
      exact absurd h Reading.not_fail_yields
    · rintro ⟨rfl, _⟩
      exact absurd rfl (hv members)

end

/-! ## Types -/

theorem ofCode?_eq_some_iff {code : Bytes} {p : Primitive} :
    Primitive.ofCode? code = some p ↔ code = p.code := by
  have hcodes : ∀ q : Primitive, Primitive.ofCode? q.code = some q := by
    intro q
    cases q <;> decide
  constructor
  · intro h
    simpa [eq_comm] using List.find?_some h
  · rintro rfl
    exact hcodes p

theorem ofCode?_eq_none_iff {code : Bytes} :
    Primitive.ofCode? code = none ↔ ∀ p : Primitive, code ≠ p.code := by
  constructor
  · intro h p hp
    rw [ofCode?_eq_some_iff.mpr hp] at h
    simp at h
  · intro h
    cases hp : Primitive.ofCode? code with
    | none => rfl
    | some p => exact absurd (ofCode?_eq_some_iff.mp hp) (h p)

section

variable {file service : Bytes}

theorem readCode_yields {place : Place} {code : Bytes} {t : ServiceType} {ws : List Warning} :
    (readCode file service place code).Yields t ws ↔
      (∃ p : Primitive, code = p.code ∧ t = .primitive p ∧ ws = []) ∨
      ((∀ p : Primitive, code ≠ p.code) ∧ t = .unknown code ∧
        ws = [unknownCode file service code place]) := by
  unfold readCode
  cases hp : Primitive.ofCode? code with
  | some p =>
      have hcode := ofCode?_eq_some_iff.mp hp
      rw [Reading.done_yields]
      constructor
      · rintro ⟨rfl, rfl⟩
        exact .inl ⟨p, hcode, rfl, rfl⟩
      · rintro (⟨q, hq, rfl, rfl⟩ | ⟨hnone, _⟩)
        · obtain rfl := Option.some.inj (hp.symm.trans (ofCode?_eq_some_iff.mpr hq))
          exact ⟨rfl, rfl⟩
        · exact absurd hcode (hnone p)
  | none =>
      have hnone := ofCode?_eq_none_iff.mp hp
      show Reading.Yields (Reading.andThen _ _) _ _ ↔ _
      rw [Reading.andThen_yields]
      constructor
      · rintro ⟨_, us, vs, hwarn, hdone, rfl⟩
        obtain ⟨_, rfl⟩ := Reading.warn_yields.mp hwarn
        obtain ⟨rfl, rfl⟩ := Reading.done_yields.mp hdone
        exact .inr ⟨hnone, rfl, rfl⟩
      · rintro (⟨q, hq, _⟩ | ⟨_, rfl, rfl⟩)
        · exact absurd hq (hnone q)
        · exact ⟨(), _, [], rfl, rfl, rfl⟩

/-- How many element types a list has is only looked at for the warning. -/
def readElement (file service : Bytes) (place : Place) : List Json → Reading ServiceType
  | [] => .fail ⟨file, place.sub "types", .noElementType⟩
  | first :: others =>
      Reading.andThen
        (if others.isEmpty then .done ()
         else .warn (extraTypes file service place (others.length + 1))) fun _ =>
      Reading.andThen (readType file service (place.item "types" 0) first) fun element =>
        .done (.list element)

theorem requiredArray_andThen {α : Type} (place : Place) (members : Members) (key : Bytes)
    (f : List Json → Reading α) :
    Reading.andThen (requiredArray file place members key) f =
      match Json.member? key members with
      | some (.array items) => f items
      | some v => .fail ⟨file, place.sub key, .wrongKind .array v.kind⟩
      | none => .fail ⟨file, place, .missing key⟩ := by
  unfold requiredArray required
  cases Json.member? key members with
  | none => rfl
  | some v =>
      cases v with
      | array items => exact Reading.done_andThen items f
      | _ => rfl

/-- The reader of types without the bookkeeping for its recursion: the array of element types is
looked up like any other array. -/
theorem readType_object (place : Place) (members : Members) :
    readType file service place (.object members) =
      Reading.andThen (requiredString file place members "code") fun code =>
        if code = ServiceType.tupleCode then
          Reading.andThen (requiredArray file place members "types") fun items =>
          Reading.andThen (readTypes file service place 0 items) fun elements =>
            .done (.tuple elements)
        else if code = ServiceType.listCode then
          Reading.andThen (requiredArray file place members "types")
            (readElement file service place)
        else if code = ServiceType.classCode then
          Reading.andThen (requiredString file place members "service") fun owner =>
          Reading.andThen (requiredString file place members "name") fun name =>
            .done (.reference owner name)
        else readCode file service place code := by
  rw [readType]
  congr 1
  funext code
  simp only [requiredArray_andThen]
  split
  · split <;> rename_i hm <;> simp only [hm]
  · split
    · split
      · rename_i hm
        simp only [hm, readElement]
      · rename_i hm
        simp only [hm, readElement]
      · rename_i v hempty hmore hm
        cases v with
        | array items =>
            cases items with
            | nil => exact absurd rfl hempty
            | cons first others => exact absurd rfl (hmore first others)
        | _ => simp only [hm]
      · rename_i hm
        simp only [hm]
    · rfl

theorem readTypes_eq_each (place : Place) (i : Nat) (vs : List Json) :
    readTypes file service place i vs =
      Reading.each (fun i v => readType file service (place.item "types" i) v) i vs := by
  induction vs generalizing i with
  | nil => rw [readTypes, Reading.each]
  | cons v vs ih => rw [readTypes, Reading.each, ih]

/-- The reader of types is right about values of a size below `n`. -/
def TypesRead (file service : Bytes) (n : Nat) : Prop :=
  ∀ v : Json, sizeOf v < n → ∀ (place : Place) (t : ServiceType) (ws : List Warning),
    (readType file service place v).Yields t ws ↔ TypeOf file service place v t ws

theorem readTypes_yields_of {n : Nat} (hn : TypesRead file service n) {place : Place}
    {vs : List Json} (hsize : sizeOf vs < n) {i : Nat} {ts : List ServiceType}
    {ws : List Warning} :
    (readTypes file service place i vs).Yields ts ws ↔ TypesOf file service place i vs ts ws := by
  induction vs generalizing i ts ws with
  | nil =>
      rw [readTypes, Reading.done_yields]
      constructor
      · rintro ⟨rfl, rfl⟩
        exact .nil
      · intro h
        cases h
        exact ⟨rfl, rfl⟩
  | cons v vs ih =>
      simp only [List.cons.sizeOf_spec] at hsize
      have hv := hn v (by omega)
      have hvs : sizeOf vs < n := by omega
      rw [readTypes, Reading.andThen_yields]
      constructor
      · rintro ⟨t, us, _, ht, hrest, rfl⟩
        obtain ⟨ts, hts, rfl⟩ := Reading.andThen_done_yields.mp hrest
        exact .cons ((hv _ _ _).mp ht) ((ih hvs).mp hts)
      · intro h
        cases h with
        | @cons _ _ _ _ t ts us vs ht hts =>
            refine ⟨t, us, vs, (hv _ _ _).mpr ht, ?_, rfl⟩
            exact Reading.andThen_done_yields.mpr ⟨ts, (ih hvs).mpr hts, rfl⟩

theorem readElement_yields_of {n : Nat} (hn : TypesRead file service n) {place : Place}
    {items : List Json} (hsize : sizeOf items < n) {t : ServiceType} {ws : List Warning} :
    (readElement file service place items).Yields t ws ↔
      ∃ first others element us, items = first :: others ∧
        TypeOf file service (place.item "types" 0) first element us ∧ t = .list element ∧
        ws = surplus file service place others ++ us := by
  cases items with
  | nil =>
      constructor
      · intro h
        exact absurd h Reading.not_fail_yields
      · rintro ⟨_, _, _, _, h, _⟩
        cases h
  | cons first others =>
      simp only [List.cons.sizeOf_spec] at hsize
      have hfirst := hn first (by omega) (place.item "types" 0)
      have hwarn : ∀ {u : Unit} {us : List Warning}, Reading.Yields (if others.isEmpty then .done ()
          else .warn (extraTypes file service place (others.length + 1))) u us ↔
          u = () ∧ us = surplus file service place others := by
        cases others with
        | nil => exact Reading.done_yields
        | cons second others => exact Reading.warn_yields
      rw [readElement, Reading.andThen_yields]
      constructor
      · rintro ⟨_, us, vs, hus, hrest, rfl⟩
        obtain ⟨element, helement, rfl⟩ := Reading.andThen_done_yields.mp hrest
        exact ⟨first, others, element, vs, rfl, (hfirst _ _).mp helement, rfl,
          by rw [(hwarn.mp hus).2]⟩
      · rintro ⟨_, _, element, us, heq, helement, rfl, rfl⟩
        obtain ⟨rfl, rfl⟩ := List.cons.inj heq
        refine ⟨(), _, us, hwarn.mpr ⟨rfl, rfl⟩, ?_, rfl⟩
        exact Reading.andThen_done_yields.mpr ⟨element, (hfirst _ _).mpr helement, rfl⟩

section

variable {n : Nat} {place : Place} {members : Members} {t : ServiceType} {ws : List Warning}

theorem tuple_yields_of (hn : TypesRead file service n)
    (hsize : ∀ items, First members "types" (.array items) → sizeOf items < n) :
    (Reading.andThen (requiredArray file place members "types") fun items =>
      Reading.andThen (readTypes file service place 0 items) fun elements =>
        .done (.tuple elements)).Yields t ws ↔
      ∃ items ts, First members "types" (.array items) ∧
        TypesOf file service place 0 items ts ws ∧ t = .tuple ts := by
  rw [Reading.silent_andThen_yields requiredArray_yields]
  refine exists_congr fun items => ?_
  rw [Reading.andThen_done_yields, exists_and_left]
  refine and_congr_right fun hfound => exists_congr fun ts => ?_
  rw [readTypes_yields_of hn (hsize items hfound)]

theorem list_yields_of (hn : TypesRead file service n)
    (hsize : ∀ items, First members "types" (.array items) → sizeOf items < n) :
    (Reading.andThen (requiredArray file place members "types")
      (readElement file service place)).Yields t ws ↔
      ∃ first others element us, First members "types" (.array (first :: others)) ∧
        TypeOf file service (place.item "types" 0) first element us ∧ t = .list element ∧
        ws = surplus file service place others ++ us := by
  rw [Reading.silent_andThen_yields requiredArray_yields]
  constructor
  · rintro ⟨items, hfound, h⟩
    obtain ⟨first, others, element, us, rfl, hrest⟩ :=
      (readElement_yields_of hn (hsize items hfound)).mp h
    exact ⟨first, others, element, us, hfound, hrest⟩
  · rintro ⟨first, others, element, us, hfound, hrest⟩
    refine ⟨_, hfound, (readElement_yields_of hn (hsize _ hfound)).mpr ?_⟩
    exact ⟨first, others, element, us, rfl, hrest⟩

theorem reference_yields :
    (Reading.andThen (requiredString file place members "service") fun owner =>
      Reading.andThen (requiredString file place members "name") fun name =>
        .done (.reference owner name)).Yields t ws ↔
      ∃ owner name, First members "service" (.string owner) ∧
        First members "name" (.string name) ∧ t = .reference owner name ∧ ws = [] := by
  simp only [Reading.silent_andThen_yields requiredString_yields, Reading.done_yields,
    exists_and_left]

end

theorem typesRead_succ {n : Nat} (hn : TypesRead file service n) :
    TypesRead file service (n + 1) := by
  intro v hsize place t ws
  cases v with
  | object members =>
      simp only [Json.object.sizeOf_spec] at hsize
      have hitems : ∀ items, First members "types" (.array items) → sizeOf items < n := by
        intro items h
        have := Json.sizeOf_lt_of_member? (member?_eq_some_iff.mpr h)
        simp only [Json.array.sizeOf_spec] at this
        omega
      rw [readType_object, Reading.silent_andThen_yields requiredString_yields]
      constructor
      · rintro ⟨code, hcode, h⟩
        split_ifs at h with htuple hlist hclass
        · subst htuple
          obtain ⟨items, ts, hfound, hts, rfl⟩ := (tuple_yields_of hn hitems).mp h
          exact .tuple hcode hfound hts
        · subst hlist
          obtain ⟨first, others, element, us, hfound, helement, rfl, rfl⟩ :=
            (list_yields_of hn hitems).mp h
          exact .list hcode hfound helement
        · subst hclass
          obtain ⟨owner, name, howner, hname, rfl, rfl⟩ := reference_yields.mp h
          exact .reference hcode howner hname
        · obtain ⟨p, rfl, rfl, rfl⟩ | ⟨hnone, rfl, rfl⟩ := readCode_yields.mp h
          · exact .primitive p hcode
          · exact .unknown hcode htuple hlist hclass hnone
      · intro h
        cases h with
        | tuple hcode hfound hts =>
            refine ⟨_, hcode, ?_⟩
            rw [if_pos (by rfl)]
            exact (tuple_yields_of hn hitems).mpr ⟨_, _, hfound, hts, rfl⟩
        | list hcode hfound helement =>
            refine ⟨_, hcode, ?_⟩
            rw [if_neg (by decide), if_pos (by rfl)]
            exact (list_yields_of hn hitems).mpr ⟨_, _, _, _, hfound, helement, rfl, rfl⟩
        | reference hcode howner hname =>
            refine ⟨_, hcode, ?_⟩
            rw [if_neg (by decide), if_neg (by decide), if_pos (by rfl)]
            exact reference_yields.mpr ⟨_, _, howner, hname, rfl, rfl⟩
        | primitive p hcode =>
            refine ⟨_, hcode, ?_⟩
            rw [if_neg (by cases p <;> decide), if_neg (by cases p <;> decide),
              if_neg (by cases p <;> decide)]
            exact readCode_yields.mpr (.inl ⟨p, rfl, rfl, rfl⟩)
        | unknown hcode htuple hlist hclass hnone =>
            refine ⟨_, hcode, ?_⟩
            rw [if_neg (by exact htuple), if_neg (by exact hlist), if_neg (by exact hclass)]
            exact readCode_yields.mpr (.inr ⟨hnone, rfl, rfl⟩)
  | _ =>
      rw [readType]
      · constructor
        · intro h
          exact absurd h Reading.not_fail_yields
        · intro h
          cases h
      · simp

theorem typesRead (file service : Bytes) (n : Nat) : TypesRead file service n := by
  induction n with
  | zero =>
      intro v hsize
      omega
  | succ n ih => exact typesRead_succ ih

theorem readType_yields {place : Place} {v : Json} {t : ServiceType} {ws : List Warning} :
    (readType file service place v).Yields t ws ↔ TypeOf file service place v t ws :=
  typesRead file service (sizeOf v + 1) v (by omega) place t ws

/-! ## Enumerations -/

theorem readValueName_yields {place : Place} {i : Nat} {v : Json} {name : Bytes}
    {ws : List Warning} :
    (readValueName file place i v).Yields name ws ↔ NameOf v name ∧ ws = [] := by
  show Reading.Yields (Reading.andThen _ _) _ _ ↔ _
  rw [Reading.silent_andThen_yields membersOf_yields]
  constructor
  · rintro ⟨members, hv, h⟩
    obtain ⟨hname, rfl⟩ := requiredString_yields.mp h
    exact ⟨⟨members, hv, hname⟩, rfl⟩
  · rintro ⟨⟨members, hv, hname⟩, rfl⟩
    exact ⟨members, hv, requiredString_yields.mpr ⟨hname, rfl⟩⟩

theorem readEnumeration_yields {place : Place} {name : Bytes} {v : Json} {e : Enumeration}
    {ws : List Warning} :
    (readEnumeration file place name v).Yields e ws ↔ EnumerationOf (name, v) e ∧ ws = [] := by
  have heach : ∀ {items : List Json} {names : List Bytes} {us : List Warning},
      (Reading.each (readValueName file place) 0 items).Yields names us ↔
        List.Forall₂ NameOf items names ∧ us = [] := by
    intro items names us
    rw [Reading.each_yields fun _ _ _ _ => readValueName_yields, eachOf_silent]
  show Reading.Yields (Reading.andThen _ _) _ _ ↔ _
  rw [Reading.silent_andThen_yields membersOf_yields]
  constructor
  · rintro ⟨members, hv, h⟩
    obtain ⟨items, hitems, h⟩ := (Reading.silent_andThen_yields requiredArray_yields).mp h
    obtain ⟨names, hnames, h⟩ := (Reading.silent_andThen_yields heach).mp h
    obtain ⟨rfl, rfl⟩ := Reading.done_yields.mp h
    exact ⟨⟨members, items, hv, hitems, hnames, rfl⟩, rfl⟩
  · rintro ⟨⟨members, items, hv, hitems, hnames, hname⟩, rfl⟩
    refine ⟨members, hv, (Reading.silent_andThen_yields requiredArray_yields).mpr ?_⟩
    refine ⟨items, hitems, (Reading.silent_andThen_yields heach).mpr ?_⟩
    refine ⟨e.values, hnames, Reading.done_yields.mpr ⟨?_, rfl⟩⟩
    rw [← show e.name = name from hname]

/-! ## Procedures -/

theorem readParameter_yields {place : Place} {i : Nat} {v : Json} {p : Parameter}
    {ws : List Warning} :
    (readParameter file service place i v).Yields p ws ↔
      ParameterOf file service place i v p ws := by
  show Reading.Yields (Reading.andThen _ _) _ _ ↔ _
  rw [Reading.silent_andThen_yields membersOf_yields]
  constructor
  · rintro ⟨members, hv, h⟩
    obtain ⟨name, hname, h⟩ := (Reading.silent_andThen_yields requiredString_yields).mp h
    obtain ⟨t, ht, h⟩ := (Reading.silent_andThen_yields required_yields).mp h
    obtain ⟨type, htype, rfl⟩ := Reading.andThen_done_yields.mp h
    exact ⟨members, t, hv, hname, ht, readType_yields.mp htype⟩
  · rintro ⟨members, t, hv, hname, ht, htype⟩
    refine ⟨members, hv, (Reading.silent_andThen_yields requiredString_yields).mpr ?_⟩
    refine ⟨p.name, hname, (Reading.silent_andThen_yields required_yields).mpr ?_⟩
    exact ⟨t, ht, Reading.andThen_done_yields.mpr ⟨p.type, readType_yields.mpr htype, rfl⟩⟩

theorem readResult_yields {place : Place} {members : Members} {t : ServiceType}
    {ws : List Warning} :
    (readResult file service place members).Yields t ws ↔
      ResultOf file service place members t ws := by
  unfold readResult
  cases hm : Json.member? "return_type" members with
  | some v =>
      have hfirst := member?_eq_some_iff.mp hm
      constructor
      · intro h
        exact .inl ⟨v, hfirst, readType_yields.mp h⟩
      · rintro (⟨u, hu, htype⟩ | ⟨hlacks, _⟩)
        · rw [hfirst.unique hu]
          exact readType_yields.mpr htype
        · exact absurd hfirst hlacks.not_first
  | none =>
      have hlacks := member?_eq_none_iff.mp hm
      constructor
      · intro h
        exact .inr ⟨hlacks, Reading.done_yields.mp h⟩
      · rintro (⟨u, hu, _⟩ | ⟨_, h⟩)
        · exact absurd hu hlacks.not_first
        · exact Reading.done_yields.mpr h

theorem readProcedure_yields {name : Bytes} {v : Json} {p : Procedure} {ws : List Warning} :
    (readProcedure file service [service, "procedures", name] name v).Yields p ws ↔
      ProcedureOf file service (name, v) p ws := by
  have heach : ∀ {items : List Json} {ps : List Parameter} {us : List Warning},
      (Reading.each (readParameter file service [service, "procedures", name]) 0 items).Yields
        ps us ↔ EachOf (ParameterOf file service [service, "procedures", name]) 0 items ps us :=
    Reading.each_yields fun _ _ _ _ => readParameter_yields
  show Reading.Yields (Reading.andThen _ _) _ _ ↔ _
  rw [Reading.silent_andThen_yields membersOf_yields]
  constructor
  · rintro ⟨members, hv, h⟩
    obtain ⟨items, hitems, h⟩ := (Reading.silent_andThen_yields requiredArray_yields).mp h
    obtain ⟨ps, us, vs, hps, hrest, rfl⟩ := Reading.andThen_yields.mp h
    obtain ⟨result, hresult, rfl⟩ := Reading.andThen_done_yields.mp hrest
    exact ⟨members, items, us, vs, hv, hitems, heach.mp hps, readResult_yields.mp hresult, rfl, rfl⟩
  · rintro ⟨members, items, us, vs, hv, hitems, hps, hresult, hname, rfl⟩
    refine ⟨members, hv, (Reading.silent_andThen_yields requiredArray_yields).mpr ?_⟩
    refine ⟨items, hitems, Reading.andThen_yields.mpr ?_⟩
    refine ⟨p.parameters, us, vs, heach.mpr hps, ?_, rfl⟩
    refine Reading.andThen_done_yields.mpr ⟨p.result, readResult_yields.mpr hresult, ?_⟩
    rw [← show p.name = name from hname]

/-! ## Services -/

theorem readSorted_yields {α : Type} {f : Bytes → Json → Reading α}
    {R : Bytes × Json → α → List Warning → Prop}
    (hf : ∀ key v a ws, (f key v).Yields a ws ↔ R (key, v) a ws) {members : Members} {as : List α}
    {ws : List Warning} :
    (readSorted f members).Yields as ws ↔
      ∃ sorted, Sorts Prod.fst members sorted ∧ EachOf (fun _ => R) 0 sorted as ws := by
  unfold readSorted Json.sortedMembers
  rw [Reading.each_yields fun _ m a ws => hf m.1 m.2 a ws]
  constructor
  · intro h
    exact ⟨_, Bytes.sortOn_sorts _ _, h⟩
  · rintro ⟨sorted, hsorted, h⟩
    rwa [← Bytes.sorts_iff.mp hsorted]

theorem readEnumerations_yields {name : Bytes} {members : Members} {es : List Enumeration}
    {ws : List Warning} :
    (readSorted (fun key => readEnumeration file [name, "enumerations", key] key) members).Yields
      es ws ↔ (∃ sorted, Sorts Prod.fst members sorted ∧ List.Forall₂ EnumerationOf sorted es) ∧
        ws = [] := by
  rw [readSorted_yields (R := fun m e ws => EnumerationOf m e ∧ ws = [])
    fun _ _ _ _ => readEnumeration_yields]
  simp only [eachOf_silent, exists_and_right, ← and_assoc]

theorem readProcedures_yields {name : Bytes} {members : Members} {ps : List Procedure}
    {ws : List Warning} :
    (readSorted (fun key => readProcedure file name [name, "procedures", key] key) members).Yields
      ps ws ↔ ∃ sorted, Sorts Prod.fst members sorted ∧
        EachOf (fun _ => ProcedureOf file name) 0 sorted ps ws :=
  readSorted_yields fun _ _ _ _ => readProcedure_yields

theorem readService_yields {name : Bytes} {v : Json} {s : Service} {ws : List Warning} :
    (readService file name v).Yields s ws ↔ ServiceOf file (name, v) s ws := by
  show Reading.Yields (Reading.andThen _ _) _ _ ↔ _
  rw [Reading.silent_andThen_yields membersOf_yields]
  constructor
  · rintro ⟨members, hv, h⟩
    obtain ⟨classes, hclasses, h⟩ := (Reading.silent_andThen_yields requiredObject_yields).mp h
    obtain ⟨enums, henums, h⟩ := (Reading.silent_andThen_yields requiredObject_yields).mp h
    obtain ⟨es, ⟨enums', hsorted, hes⟩, h⟩ :=
      (Reading.silent_andThen_yields readEnumerations_yields).mp h
    obtain ⟨procs, hprocs, h⟩ := (Reading.silent_andThen_yields requiredObject_yields).mp h
    obtain ⟨ps, hps, rfl⟩ := Reading.andThen_done_yields.mp h
    obtain ⟨procs', hsorted', hps⟩ := readProcedures_yields.mp hps
    exact ⟨members, classes, enums, procs, _, enums', procs', hv, hclasses,
      Bytes.sortOn_sorts _ _, rfl, henums, hsorted, hes, hprocs, hsorted', hps, rfl, rfl⟩
  · rintro ⟨members, classes, enums, procs, classes', enums', procs', hv, hclasses, hsorted,
      hnames, henums, hsorted', hes, hprocs, hsorted'', hps, hname, hfile⟩
    refine ⟨members, hv, (Reading.silent_andThen_yields requiredObject_yields).mpr ?_⟩
    refine ⟨classes, hclasses, (Reading.silent_andThen_yields requiredObject_yields).mpr ?_⟩
    refine ⟨enums, henums, (Reading.silent_andThen_yields readEnumerations_yields).mpr ?_⟩
    refine ⟨s.enumerations, ⟨enums', hsorted', hes⟩,
      (Reading.silent_andThen_yields requiredObject_yields).mpr ?_⟩
    refine ⟨procs, hprocs, Reading.andThen_done_yields.mpr ?_⟩
    refine ⟨s.procedures, readProcedures_yields.mpr ⟨procs', hsorted'', hps⟩, ?_⟩
    have hclassNames : (Json.sortedMembers classes).map Prod.fst = s.classes := by
      rw [hnames, Bytes.sorts_iff.mp hsorted]
      rfl
    rw [hclassNames, ← show s.name = name from hname, ← hfile]

/-! ## Documents -/

theorem readServices_yields {v : Json} {services : List Service} {ws : List Warning} :
    (readServices file v).Yields services ws ↔ DocumentOf file v ⟨file, services, ws⟩ := by
  show Reading.Yields (Reading.andThen _ _) _ _ ↔ _
  rw [Reading.silent_andThen_yields membersOf_yields]
  constructor
  · rintro ⟨members, hv, h⟩
    obtain ⟨members', hsorted, h⟩ := (readSorted_yields fun _ _ _ _ => readService_yields).mp h
    exact ⟨members, members', hv, hsorted, h, rfl⟩
  · rintro ⟨members, members', hv, hsorted, h, _⟩
    exact ⟨members, hv,
      (readSorted_yields fun _ _ _ _ => readService_yields).mpr ⟨members', hsorted, h⟩⟩

/-- Reading the bytes of a file gives the document that they describe, and no other. -/
theorem read_eq_ok_iff {data : Bytes} {d : Document} :
    read file data = .ok d ↔ Describes file data d := by
  constructor
  · intro h
    unfold read at h
    split at h
    · cases h
    · rename_i v hparse
      split at h
      · cases h
      · rename_i services warnings hservices
        cases h
        exact ⟨v, Json.parse?_eq_some_iff.mp hparse, readServices_yields.mp hservices⟩
  · rintro ⟨v, htext, hdocument⟩
    obtain ⟨file', services, warnings⟩ := d
    have hfile : file' = file := by
      obtain ⟨_, _, _, _, _, h⟩ := hdocument
      exact h
    subst hfile
    have hservices : readServices file' v = .ok (services, warnings) :=
      readServices_yields.mpr hdocument
    rw [read, Json.parse?_eq_some_iff.mpr htext]
    simp only [hservices]

end

end RpcBindings.Document
