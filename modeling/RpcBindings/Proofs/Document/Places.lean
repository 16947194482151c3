import RpcBindings.Proofs.Document.Conformance
import RpcBindings.Proofs.Document.Messages

/-!
# Violations name their place (SPEC §7)

The readers put the place of a value together by hand, key by key and index by index, while they
walk down the document.  Each reader is shown to keep to one rule: given a value and the place that
leads to it, whatever it refuses stands at the place that the violation names, and the complaint is
right about it.  A reading that goes on with the result of another keeps the rule when both do
(`Reading.Justified.andThen`), so no proof looks into more than one reader.
-/

set_option autoImplicit false

namespace RpcBindings.Document

open RpcBindings.Json (Members)

/-! ## Places -/

/-- The keys and indexes lead from the first value to the second: a key to a member that has it, a
decimal numeral to the item with that number. -/
inductive Reaches : Json → Place → Json → Prop where
  | here {v : Json} : Reaches v [] v
  | member {members : Members} {key : Bytes} {v u : Json} {place : Place}
      (h : (key, v) ∈ members) (rest : Reaches v place u) :
      Reaches (.object members) (key :: place) u
  | item {items : List Json} {i : Nat} {v u : Json} {place : Place} (h : items[i]? = some v)
      (rest : Reaches v place u) : Reaches (.array items) (decimal i :: place) u

section

variable {doc v u : Json} {place inner : Place} {members : Members} {key : Bytes}

theorem Reaches.trans (h : Reaches doc place v) (rest : Reaches v inner u) :
    Reaches doc (place ++ inner) u := by
  induction h with
  | here => exact rest
  | member hmem _ ih => exact .member hmem (ih rest)
  | item hitem _ ih => exact .item hitem (ih rest)

theorem Reaches.sub (h : Reaches doc place (.object members)) (hmem : (key, v) ∈ members) :
    Reaches doc (place.sub key) v :=
  h.trans (.member hmem .here)

theorem First.mem (h : First members key v) : (key, v) ∈ members :=
  Json.mem_of_member? (member?_eq_some_iff.mpr h)

theorem Reaches.itemOf (h : Reaches doc place (.object members)) {items : List Json}
    (hfirst : First members key (.array items)) {i : Nat} (hitem : items[i]? = some v) :
    Reaches doc (place.item key i) v :=
  h.trans (.member hfirst.mem (.item hitem .here))

end

/-! ## Justified readings -/

/-- The violation is about the file, and names a place of the document where the complaint is
right. -/
def Violation.Applies (file : Bytes) (doc : Json) (violation : Violation) : Prop :=
  violation.file = file ∧
    ∃ u, Reaches doc violation.place u ∧ violation.complaint.RightAbout u

/-- The reading ends badly only with a violation that applies. -/
def Reading.Justified {α : Type} (file : Bytes) (doc : Json) (x : Reading α) : Prop :=
  ∀ violation, x = Except.error violation → violation.Applies file doc

namespace Reading

variable {α β : Type} {file : Bytes} {doc : Json}

theorem done_justified (a : α) : Justified file doc (done a) := by
  intro violation h
  cases h

theorem warn_justified (w : Warning) : Justified file doc (warn w) := by
  intro violation h
  cases h

theorem fail_justified {u : Json} {place : Place} {complaint : Complaint}
    (hu : Reaches doc place u) (h : complaint.RightAbout u) :
    Justified file doc (fail ⟨file, place, complaint⟩ : Reading α) := by
  intro violation hviolation
  obtain rfl := Except.error.inj hviolation
  exact ⟨rfl, u, hu, h⟩

/-- A reading that goes on with the result of another is justified when both are. -/
theorem Justified.andThen {x : Reading α} {f : α → Reading β} (hx : Justified file doc x)
    (hf : ∀ a ws, x.Yields a ws → Justified file doc (f a)) :
    Justified file doc (Reading.andThen x f) := by
  intro violation h
  unfold Reading.andThen at h
  split at h
  · obtain rfl := Except.error.inj h
    exact hx _ rfl
  · rename_i a ws
    split at h
    · rename_i hrefused
      obtain rfl := Except.error.inj h
      exact hf a ws rfl _ hrefused
    · cases h

/-- Things that are read one after another, each with its number. -/
theorem each_justified {f : Nat → α → Reading β} {i : Nat} {as : List α}
    (hf : ∀ k a, as[k]? = some a → Justified file doc (f (i + k) a)) :
    Justified file doc (each f i as) := by
  induction as generalizing i with
  | nil => exact done_justified []
  | cons a as ih =>
      refine Justified.andThen (hf 0 a rfl) fun b _ _ => ?_
      refine Justified.andThen (ih fun k c hc => ?_) fun bs _ _ => done_justified _
      rw [Nat.add_assoc, Nat.add_comm 1]
      exact hf (k + 1) c hc

end Reading

/-! ## Members -/

section

variable {file : Bytes} {doc v : Json} {place : Place} {members : Members} {key : Bytes}

open Reading (Justified done_justified fail_justified)

theorem required_justified (h : Reaches doc place (.object members)) :
    Justified file doc (required file place members key) := by
  unfold required
  split
  · exact done_justified _
  · rename_i hnone
    exact fail_justified h ⟨members, rfl, member?_eq_none_iff.mp hnone⟩

/-- What is made of a member that has to be there, when all it is refused for is its kind. -/
theorem required_andThen_justified {α : Type} {f : Json → Reading α} (wanted : Json.Kind)
    (h : Reaches doc place (.object members))
    (hf : ∀ v, (∃ a, f v = .done a) ∨
      f v = .fail ⟨file, place.sub key, .wrongKind wanted v.kind⟩ ∧ v.kind ≠ wanted) :
    Justified file doc (Reading.andThen (required file place members key) f) := by
  refine (required_justified h).andThen fun v ws hv => ?_
  have hsub := h.sub (required_yields.mp hv).1.mem
  obtain ⟨a, ha⟩ | ⟨hfail, hkind⟩ := hf v
  · rw [ha]
    exact done_justified a
  · rw [hfail]
    exact fail_justified hsub ⟨rfl, hkind⟩

theorem requiredObject_justified (h : Reaches doc place (.object members)) :
    Justified file doc (requiredObject file place members key) := by
  refine required_andThen_justified .object h fun v => ?_
  cases v with
  | object inner => exact .inl ⟨inner, rfl⟩
  | _ => exact .inr ⟨rfl, by simp [Json.kind]⟩

theorem requiredArray_justified (h : Reaches doc place (.object members)) :
    Justified file doc (requiredArray file place members key) := by
  refine required_andThen_justified .array h fun v => ?_
  cases v with
  | array items => exact .inl ⟨items, rfl⟩
  | _ => exact .inr ⟨rfl, by simp [Json.kind]⟩

theorem requiredString_justified (h : Reaches doc place (.object members)) :
    Justified file doc (requiredString file place members key) := by
  refine required_andThen_justified .string h fun v => ?_
  cases v with
  | string text => exact .inl ⟨text, rfl⟩
  | _ => exact .inr ⟨rfl, by simp [Json.kind]⟩

theorem membersOf_justified {part : Part} (h : Reaches doc place v) :
    Justified file doc (membersOf file place part v) := by
  cases v with
  | object members => exact done_justified members
  | _ => exact fail_justified h ⟨rfl, by simp [Json.kind]⟩

end

/-! ## Types -/

section

variable {file service : Bytes} {doc v : Json} {place : Place} {members : Members}

open Reading (Justified done_justified warn_justified fail_justified each_justified)

theorem readCode_justified {code : Bytes} :
    Justified file doc (readCode file service place code) := by
  unfold readCode
  split
  · exact done_justified _
  · exact (warn_justified _).andThen fun _ _ _ => done_justified _

/-- The reader of types is justified on the items of an array. -/
def ItemsJustified (file service : Bytes) (doc : Json) (items : List Json) : Prop :=
  ∀ v ∈ items, ∀ place, Reaches doc place v → Justified file doc (readType file service place v)

theorem readTypes_justified {items : List Json} (hitems : ItemsJustified file service doc items)
    (h : Reaches doc place (.object members)) (hfirst : First members "types" (.array items)) :
    Justified file doc (readTypes file service place 0 items) := by
  rw [readTypes_eq_each]
  refine each_justified fun k v hv => ?_
  rw [Nat.zero_add]
  exact hitems v (List.mem_of_getElem? hv) _ (h.itemOf hfirst hv)

theorem readElement_justified {items : List Json} (hitems : ItemsJustified file service doc items)
    (h : Reaches doc place (.object members)) (hfirst : First members "types" (.array items)) :
    Justified file doc (readElement file service place items) := by
  cases items with
  | nil => exact fail_justified (h.sub hfirst.mem) rfl
  | cons first others =>
      have hwarning : Justified file doc
          (if others.isEmpty then Reading.done ()
           else .warn (extraTypes file service place (others.length + 1))) := by
        split
        · exact done_justified _
        · exact warn_justified _
      refine hwarning.andThen fun _ _ _ => ?_
      have hreaches : Reaches doc (place.item "types" 0) first := h.itemOf hfirst rfl
      exact (hitems first (by simp) _ hreaches).andThen fun _ _ _ => done_justified _

theorem readType_justified (h : Reaches doc place v) :
    Justified file doc (readType file service place v) := by
  induction hsize : sizeOf v using Nat.strongRecOn generalizing v place with
  | _ n ih =>
      cases v with
      | object members =>
          -- The element types of a type are smaller than the type.
          have hitems : ∀ items, First members "types" (.array items) →
              ItemsJustified file service doc items := by
            intro items hfirst w hw inner hinner
            refine ih (sizeOf w) ?_ hinner rfl
            have hmembers := Json.sizeOf_lt_of_member? (member?_eq_some_iff.mpr hfirst)
            have hitem := List.sizeOf_lt_of_mem hw
            simp only [Json.array.sizeOf_spec] at hmembers
            simp only [Json.object.sizeOf_spec] at hsize
            omega
          rw [readType_object]
          refine (requiredString_justified h).andThen fun code _ _ => ?_
          split_ifs
          · refine (requiredArray_justified h).andThen fun items _ hyields => ?_
            have hfirst := (requiredArray_yields.mp hyields).1
            have htypes := readTypes_justified (hitems items hfirst) h hfirst
            exact htypes.andThen fun _ _ _ => done_justified _
          · refine (requiredArray_justified h).andThen fun items _ hyields => ?_
            have hfirst := (requiredArray_yields.mp hyields).1
            exact readElement_justified (hitems items hfirst) h hfirst
          · refine (requiredString_justified h).andThen fun _ _ _ => ?_
            exact (requiredString_justified h).andThen fun _ _ _ => done_justified _
          · exact readCode_justified
      | _ =>
          rw [readType]
          · exact fail_justified h ⟨rfl, by simp [Json.kind]⟩
          · simp

/-! ## Enumerations and procedures -/

theorem readValueName_justified {items : List Json} {i : Nat}
    (h : Reaches doc place (.object members)) (hfirst : First members "values" (.array items))
    (hv : items[i]? = some v) : Justified file doc (readValueName file place i v) := by
  have hitem := h.itemOf hfirst hv
  refine (membersOf_justified hitem).andThen fun inner _ hyields => ?_
  rw [(membersOf_yields.mp hyields).1] at hitem
  exact requiredString_justified hitem

theorem readEnumeration_justified {name : Bytes} (h : Reaches doc place v) :
    Justified file doc (readEnumeration file place name v) := by
  refine (membersOf_justified h).andThen fun members _ hyields => ?_
  rw [(membersOf_yields.mp hyields).1] at h
  refine (requiredArray_justified h).andThen fun items _ hyields => ?_
  have hfirst := (requiredArray_yields.mp hyields).1
  refine (each_justified fun k w hw => ?_).andThen fun _ _ _ => done_justified _
  rw [Nat.zero_add]
  exact readValueName_justified h hfirst hw

theorem readParameter_justified {items : List Json} {i : Nat}
    (h : Reaches doc place (.object members)) (hfirst : First members "parameters" (.array items))
    (hv : items[i]? = some v) : Justified file doc (readParameter file service place i v) := by
  have hitem := h.itemOf hfirst hv
  refine (membersOf_justified hitem).andThen fun inner _ hyields => ?_
  rw [(membersOf_yields.mp hyields).1] at hitem
  refine (requiredString_justified hitem).andThen fun _ _ _ => ?_
  refine (required_justified hitem).andThen fun t _ hyields => ?_
  have htype := hitem.sub (required_yields.mp hyields).1.mem
  exact (readType_justified htype).andThen fun _ _ _ => done_justified _

theorem readResult_justified (h : Reaches doc place (.object members)) :
    Justified file doc (readResult file service place members) := by
  unfold readResult
  split
  · rename_i t hfound
    exact readType_justified (h.sub (Json.mem_of_member? hfound))
  · exact done_justified _

theorem readProcedure_justified {name : Bytes} (h : Reaches doc place v) :
    Justified file doc (readProcedure file service place name v) := by
  refine (membersOf_justified h).andThen fun members _ hyields => ?_
  rw [(membersOf_yields.mp hyields).1] at h
  refine (requiredArray_justified h).andThen fun items _ hyields => ?_
  have hfirst := (requiredArray_yields.mp hyields).1
  refine (each_justified fun k w hw => ?_).andThen fun _ _ _ => ?_
  · rw [Nat.zero_add]
    exact readParameter_justified h hfirst hw
  · exact (readResult_justified h).andThen fun _ _ _ => done_justified _

/-! ## Services -/

theorem readSorted_justified {α : Type} {f : Bytes → Json → Reading α}
    (hf : ∀ key v, (key, v) ∈ members → Justified file doc (f key v)) :
    Justified file doc (readSorted f members) := by
  refine each_justified fun k m hm => hf m.1 m.2 ?_
  exact ((Bytes.sortOn_sorts Prod.fst members).mem_iff m).mp (List.mem_of_getElem? hm)

theorem readSorted_singleton {α : Type} {f : Bytes → Json → Reading α} {key : Bytes}
    {violation : Violation} (h : f key v = Except.error violation) :
    readSorted f [(key, v)] = Except.error violation := by
  have hsorted : Json.sortedMembers [(key, v)] = [(key, v)] := by
    simp [Json.sortedMembers, Bytes.sortOn]
  rw [readSorted, hsorted, Reading.each, h]
  rfl

theorem readService_justified {name : Bytes} (h : Reaches doc [name] v) :
    Justified file doc (readService file name v) := by
  refine (membersOf_justified h).andThen fun members _ hyields => ?_
  rw [(membersOf_yields.mp hyields).1] at h
  refine (requiredObject_justified h).andThen fun _ _ _ => ?_
  refine (requiredObject_justified h).andThen fun enumerations _ hyields => ?_
  have henumerations := h.sub (requiredObject_yields.mp hyields).1.mem
  refine (readSorted_justified fun key w hw => ?_).andThen fun _ _ _ => ?_
  · exact readEnumeration_justified (henumerations.sub hw)
  refine (requiredObject_justified h).andThen fun procedures _ hyields => ?_
  have hprocedures := h.sub (requiredObject_yields.mp hyields).1.mem
  refine (readSorted_justified fun key w hw => ?_).andThen fun _ _ _ => done_justified _
  exact readProcedure_justified (hprocedures.sub hw)

theorem readServices_justified (file : Bytes) (doc : Json) :
    Justified file doc (readServices file doc) := by
  refine (membersOf_justified .here).andThen fun members _ hyields => ?_
  have hdoc : Reaches doc [] (.object members) := (membersOf_yields.mp hyields).1 ▸ .here
  exact readSorted_justified fun key v hv => readService_justified (hdoc.sub hv)

/-- A text that is JSON is refused only with a violation that applies to it. -/
theorem applies_of_read_eq_error {data : Bytes} {violation : Violation}
    (hdoc : Json.IsText data doc) (h : read file data = .error violation) :
    violation.Applies file doc := by
  unfold read at h
  rw [Json.parse?_eq_some_iff.mpr hdoc] at h
  cases hread : readServices file doc with
  | error refused =>
      simp only [hread] at h
      obtain rfl := Except.error.inj h
      exact readServices_justified file doc _ hread
  | ok result => simp [hread] at h

end

end RpcBindings.Document

namespace RpcBindings.Generation

open RpcBindings.Document (Reaches Tells)

/-- As long as a run may go on, a JSON text is only ever refused with a violation of the given file.
Its keys and indexes lead to a value of the text, and what its message says of that value is so. -/
theorem violation_names_its_place {allowance left : Allowance} (hcheck : allowance.check = .ok left)
    {file data : Bytes} {doc : Json} (hdoc : Json.IsText data doc) {failure : Failure}
    (h : (readDocument allowance file data).1 = .error failure) :
    ∃ violation u, failure = .violation violation ∧ violation.file = file ∧
      Reaches doc violation.place u ∧ violation.complaint.RightAbout u ∧
      Tells violation.complaint.message u := by
  unfold readDocument at h
  rw [hcheck] at h
  cases hread : Document.read file data with
  | error violation =>
      simp only [hread, Except.error.injEq] at h
      obtain ⟨hfile, u, hu, hright⟩ := Document.applies_of_read_eq_error hdoc hread
      exact ⟨violation, u, h.symm, hfile, hu, hright, hright.tells⟩
  | ok document => simp [hread] at h

/-- A service with an enumeration whose one value is a number. -/
def numberedService : Json :=
  .object [("classes", .object []),
    ("enumerations", .object [("E", .object [("values", .array [.number "7"])])])]

/-- What is wrong with it. -/
def numberedViolation : Document.Violation where
  file := "a.json"
  place := ["S", "enumerations", "E", "values", "0"]
  complaint := .notObject .enumerationValue .number

set_option maxRecDepth 4000 in
/-- The place goes through keys and an index, and the message tells what stands there. -/
theorem violation_names_its_place_of_value :
    let data := Bytes.ofString
      "\x7b\"S\":\x7b\"classes\":\x7b\x7d,
      \"enumerations\":\x7b\"E\":\x7b\"values\":[7]\x7d\x7d\x7d\x7d"
    (Allowance.checks 1).check = .ok (.checks 0) ∧
      Json.IsText data (.object [("S", numberedService)]) ∧
      (readDocument (.checks 1) "a.json" data).1 = .error (.violation numberedViolation) ∧
      ∃ u, Reaches (.object [("S", numberedService)]) numberedViolation.place u ∧
        u.kind = .number ∧ Tells "enumeration value must be an object, got number" u := by
  intro data
  have hparse : Json.parse? data = some (.object [("S", numberedService)]) := rfl
  have hdoc := Json.parse?_eq_some_iff.mp hparse
  have hservice : Document.readService "a.json" "S" numberedService =
      Except.error numberedViolation := by
    -- The members are found one after another, up to the enumerations.
    show Document.Reading.andThen (.done _) _ = _
    rw [Document.Reading.done_andThen]
    show Document.Reading.andThen (.done _) _ = _
    rw [Document.Reading.done_andThen]
    show Document.Reading.andThen (.done _) _ = _
    rw [Document.Reading.done_andThen, Document.readSorted_singleton rfl]
    rfl
  have hservices : Document.readServices "a.json" (.object [("S", numberedService)]) =
      Except.error numberedViolation := by
    show Document.Reading.andThen (.done _) _ = _
    rw [Document.Reading.done_andThen]
    exact Document.readSorted_singleton hservice
  have hrefused : (readDocument (.checks 1) "a.json" data).1 =
      .error (.violation numberedViolation) := by
    simp only [readDocument, Allowance.check, Document.read, hparse, hservices]
  obtain ⟨violation, u, hfailure, _, hu, hright, htells⟩ :=
    violation_names_its_place rfl hdoc hrefused
  obtain rfl := Failure.violation.inj hfailure
  exact ⟨rfl, hdoc, hrefused, u, hu, hright.1.symm, htells⟩

end RpcBindings.Generation
