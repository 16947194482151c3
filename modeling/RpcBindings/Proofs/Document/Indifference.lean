import RpcBindings.Proofs.Document.Conformance
import RpcBindings.Proofs.Document.Equivalence

/-!
# Equivalent documents are read alike (SPEC §3, §6)

For each role there is a reader, and two values agree in a role when its reader cannot tell them apart.
A reader looks at an object in one of two ways only: it looks fixed keys up, or it lists all members in
the order of their keys.  So an object keeps its reading as long as the values found under the keys that
count agree, or the members in order do; and every change leaves one of these as it is.
-/

set_option autoImplicit false

namespace RpcBindings.Document

open RpcBindings.Json (Members)

/-! ## Looking up and listing -/

section

variable {key k : Bytes} {v w : Json} {before after members members' : Members}

theorem member?_append_cons_of_ne (h : k ≠ key) :
    Json.member? key (before ++ (k, v) :: after) = Json.member? key (before ++ after) := by
  induction before with
  | nil => simp [Json.member?, h]
  | cons m before ih =>
      obtain ⟨l, u⟩ := m
      simp [Json.member?, ih]

/-- What is found under the key of a member: the member, or one before it. -/
theorem member?_append_cons_self :
    (∀ w, Json.member? k (before ++ (k, w) :: after) = some w) ∨
      ∃ u, ∀ w, Json.member? k (before ++ (k, w) :: after) = some u := by
  induction before with
  | nil => exact .inl fun w => by simp [Json.member?]
  | cons m before ih =>
      obtain ⟨l, u⟩ := m
      by_cases hl : l = k
      · exact .inr ⟨u, fun w => by simp [Json.member?, hl]⟩
      · simpa [Json.member?, hl] using ih

theorem member?_eq_some_iff_mem (h : (members.map Prod.fst).Nodup) :
    Json.member? key members = some v ↔ (key, v) ∈ members := by
  constructor
  · exact Json.mem_of_member?
  · intro hmem
    obtain ⟨before, after, rfl⟩ := List.append_of_mem hmem
    refine member?_eq_some_iff.mpr ⟨before, after, rfl, ?_⟩
    intro m hm heq
    rw [List.map_append, List.map_cons, List.nodup_append] at h
    exact h.2.2 m.1 (List.mem_map_of_mem hm) key (by simp) heq

/-- With distinct keys the order of members does not matter where one is looked up. -/
theorem member?_perm (h : (members.map Prod.fst).Nodup) (hperm : members.Perm members') :
    Json.member? key members = Json.member? key members' := by
  have h' : (members'.map Prod.fst).Nodup := (hperm.map Prod.fst).nodup_iff.mp h
  ext v
  rw [member?_eq_some_iff_mem h, member?_eq_some_iff_mem h', hperm.mem_iff]

/-- With distinct keys the order of members does not matter where they are listed. -/
theorem sortedMembers_perm (h : (members.map Prod.fst).Nodup) (hperm : members.Perm members') :
    Json.sortedMembers members = Json.sortedMembers members' := by
  refine Bytes.sorts_iff.mp ⟨(Bytes.sortOn_sorts _ _).increasing, ?_⟩
  intro k
  rw [Json.sortedMembers, (Bytes.sortOn_sorts _ members).stable]
  -- No two members have the key, and a list of at most one item has one order.
  have hone : (members.filter fun m => m.1 = k).length ≤ 1 := by
    have hcount : (members.map Prod.fst).count k ≤ 1 := List.nodup_iff_count.mp h k
    rw [List.count_eq_countP, List.countP_map, List.countP_eq_length_filter] at hcount
    simpa only [Function.comp_def, beq_iff_eq, decide_eq_true_eq, Bool.beq_eq_decide_eq] using hcount
  have hfiltered := hperm.filter fun m => decide (m.1 = k)
  obtain hnone | hsingle := Nat.le_one_iff_eq_zero_or_eq_one.mp hone
  · rw [List.length_eq_zero_iff.mp hnone] at hfiltered ⊢
    exact (List.nil_perm.mp hfiltered).symm
  · obtain ⟨m, hm⟩ := List.length_eq_one_iff.mp hsingle
    rw [hm] at hfiltered ⊢
    exact List.singleton_perm.mp hfiltered

end

/-! ## Agreement -/

/-- The reader for a role makes the same of both values.  Objects that are listed, arrays and strings
are read by whoever finds them, so of these only their content is compared. -/
def SameReading : Role → Json → Json → Prop
  | .document, v, w => ∀ file, readServices file v = readServices file w
  | .service, v, w => ∀ file name, readService file name v = readService file name w
  | .enumeration, v, w =>
      ∀ file place name, readEnumeration file place name v = readEnumeration file place name w
  | .value, v, w => ∀ file place i, readValueName file place i v = readValueName file place i w
  | .procedure, v, w => ∀ file service place name,
      readProcedure file service place name v = readProcedure file service place name w
  | .parameter, v, w => ∀ file service place i,
      readParameter file service place i v = readParameter file service place i w
  | .type, v, w =>
      ∀ file service place, readType file service place v = readType file service place w
  | .classes, .object a, .object b =>
      (Json.sortedMembers a).map Prod.fst = (Json.sortedMembers b).map Prod.fst
  | .enumerations, .object a, .object b => ∀ file (place : Place),
      readSorted (fun key => readEnumeration file (place.sub key) key) a =
        readSorted (fun key => readEnumeration file (place.sub key) key) b
  | .procedures, .object a, .object b => ∀ file service (place : Place),
      readSorted (fun key => readProcedure file service (place.sub key) key) a =
        readSorted (fun key => readProcedure file service (place.sub key) key) b
  | .values, .array a, .array b => ∀ file place,
      Reading.each (readValueName file place) 0 a = Reading.each (readValueName file place) 0 b
  | .parameters, .array a, .array b => ∀ file service place,
      Reading.each (readParameter file service place) 0 a =
        Reading.each (readParameter file service place) 0 b
  | .types, .array a, .array b =>
      ∀ file service place, readTypes file service place 0 a = readTypes file service place 0 b
  | .elements, .array a, .array b =>
      ∀ file service place, readElement file service place a = readElement file service place b
  | .string, .string a, .string b => a = b
  | _, _, _ => True

/-- No reading tells the values in a role apart.  A value of the wrong kind is only asked for its
kind. -/
def Agree (role : Role) (v w : Json) : Prop :=
  role ≠ .unread → v.kind = w.kind ∧ SameReading role v w

theorem Agree.refl (role : Role) (v : Json) : Agree role v v := by
  intro _
  refine ⟨rfl, ?_⟩
  cases role <;> cases v <;> simp [SameReading]

namespace Reading

variable {α β γ : Type}

theorem andThen_assoc (x : Reading α) (f : α → Reading β) (g : β → Reading γ) :
    andThen (andThen x f) g = andThen x fun a => andThen (f a) g := by
  cases x with
  | error v => rfl
  | ok p =>
      obtain ⟨a, us⟩ := p
      simp only [andThen]
      cases f a with
      | error v => rfl
      | ok q =>
          obtain ⟨b, vs⟩ := q
          cases hg : g b with
          | error v => simp only [hg]; rfl
          | ok r => simp only [hg, List.append_assoc]; rfl

theorem andThen_done (x : Reading α) : andThen x done = x := by
  cases x with
  | error v => rfl
  | ok p =>
      simp only [andThen, done, List.append_nil]
      rfl

theorem each_congr {δ : Type} {R : α → δ → Prop} {f : Nat → α → Reading β} {g : Nat → δ → Reading β}
    (hfg : ∀ i a b, R a b → f i a = g i b) {as : List α} {bs : List δ} (h : List.Forall₂ R as bs)
    (i : Nat) : each f i as = each g i bs := by
  induction h generalizing i with
  | nil => rfl
  | cons hab _ ih => rw [each, each, hfg i _ _ hab, ih]

end Reading

/-! ## Members that are looked up -/

section

variable {α : Type} {file : Bytes} {place : Place} {key : Bytes} {m m' : Members} {sub : Role}

theorem rel_cases {R : Json → Json → Prop} {v? w? : Option Json} (h : Option.Rel R v? w?) :
    (v? = none ∧ w? = none) ∨ ∃ v w, v? = some v ∧ w? = some w ∧ R v w := by
  cases h with
  | none => exact .inl ⟨rfl, rfl⟩
  | some h => exact .inr ⟨_, _, rfl, rfl, h⟩

theorem membersOf_congr {part : Part} {f g : Members → Reading α} (h : f m = g m') :
    Reading.andThen (membersOf file place part (.object m)) f =
      Reading.andThen (membersOf file place part (.object m')) g :=
  (Reading.done_andThen m f).trans (h.trans (Reading.done_andThen m' g).symm)

theorem required_congr (h : Option.Rel (Agree sub) (Json.member? key m) (Json.member? key m'))
    {f g : Json → Reading α}
    (hfg : ∀ v w, Json.member? key m = some v → Agree sub v w → f v = g w) :
    Reading.andThen (required file place m key) f =
      Reading.andThen (required file place m' key) g := by
  unfold required
  obtain ⟨hm, hm'⟩ | ⟨v, w, hm, hm', hvw⟩ := rel_cases h
  · rw [hm, hm']
    rfl
  · rw [hm, hm', Reading.done_andThen, Reading.done_andThen]
    exact hfg v w hm hvw

/-- A value that is looked up and then asked for its kind. -/
theorem picked_congr {β : Type} {pick : Json → Reading β} (hsub : sub ≠ .unread)
    (h : Option.Rel (Agree sub) (Json.member? key m) (Json.member? key m')) {f g : β → Reading α}
    (hfg : ∀ v w, Json.member? key m = some v → v.kind = w.kind → SameReading sub v w →
      Reading.andThen (pick v) f = Reading.andThen (pick w) g) :
    Reading.andThen (Reading.andThen (required file place m key) pick) f =
      Reading.andThen (Reading.andThen (required file place m' key) pick) g := by
  rw [Reading.andThen_assoc, Reading.andThen_assoc]
  refine required_congr h ?_
  intro v w hv hvw
  exact hfg v w hv (hvw hsub).1 (hvw hsub).2

theorem requiredObject_congr (hsub : sub ≠ .unread)
    (h : Option.Rel (Agree sub) (Json.member? key m) (Json.member? key m'))
    {f g : Members → Reading α}
    (hfg : ∀ a b, SameReading sub (.object a) (.object b) → f a = g b) :
    Reading.andThen (requiredObject file place m key) f =
      Reading.andThen (requiredObject file place m' key) g := by
  refine picked_congr hsub h ?_
  intro v w _ hkind hread
  cases v <;> cases w <;> cases hkind
  case object.object.refl a _ b =>
    exact (Reading.done_andThen a f).trans ((hfg a b hread).trans (Reading.done_andThen b g).symm)
  all_goals rfl

theorem requiredArray_congr (hsub : sub ≠ .unread)
    (h : Option.Rel (Agree sub) (Json.member? key m) (Json.member? key m'))
    {f g : List Json → Reading α}
    (hfg : ∀ a b, SameReading sub (.array a) (.array b) → f a = g b) :
    Reading.andThen (requiredArray file place m key) f =
      Reading.andThen (requiredArray file place m' key) g := by
  refine picked_congr hsub h ?_
  intro v w _ hkind hread
  cases v <;> cases w <;> cases hkind
  case array.array.refl a _ b =>
    exact (Reading.done_andThen a f).trans ((hfg a b hread).trans (Reading.done_andThen b g).symm)
  all_goals rfl

theorem requiredString_congr
    (h : Option.Rel (Agree .string) (Json.member? key m) (Json.member? key m'))
    {f g : Bytes → Reading α}
    (hfg : ∀ text, Json.member? key m = some (.string text) → f text = g text) :
    Reading.andThen (requiredString file place m key) f =
      Reading.andThen (requiredString file place m' key) g := by
  refine picked_congr (by decide) h ?_
  intro v w hv hkind hread
  cases v <;> cases w <;> cases hkind
  case string.string.refl a b =>
    obtain rfl : a = b := hread
    exact (Reading.done_andThen a f).trans ((hfg a hv).trans (Reading.done_andThen a g).symm)
  all_goals rfl

end

/-- The values of the keys that count agree. -/
def Looks (role : Role) (m m' : Members) : Prop :=
  ∀ key sub, role.field? m key = some sub →
    Option.Rel (Agree sub) (Json.member? key m) (Json.member? key m')

theorem rel_agree_refl (role : Role) (v? : Option Json) : Option.Rel (Agree role) v? v? := by
  cases v? with
  | none => exact .none
  | some v => exact .some (.refl role v)

section

variable {m m' : Members}

theorem readService_congr (h : Looks .service m m') (file name : Bytes) :
    readService file name (.object m) = readService file name (.object m') := by
  unfold readService
  refine membersOf_congr ?_
  refine requiredObject_congr (by decide) (h "classes" .classes rfl) ?_
  intro classes classes' hclasses
  refine requiredObject_congr (by decide) (h "enumerations" .enumerations rfl) ?_
  intro enumerations enumerations' henumerations
  show Reading.andThen _ _ = Reading.andThen _ _
  rw [henumerations file]
  congr 1
  funext es
  refine requiredObject_congr (by decide) (h "procedures" .procedures rfl) ?_
  intro procedures procedures' hprocedures
  show Reading.andThen _ _ = Reading.andThen _ _
  rw [hprocedures file name, show List.map Prod.fst _ = _ from hclasses]

theorem readEnumeration_congr (h : Looks .enumeration m m') (file : Bytes) (place : Place)
    (name : Bytes) :
    readEnumeration file place name (.object m) = readEnumeration file place name (.object m') := by
  unfold readEnumeration
  refine membersOf_congr ?_
  refine requiredArray_congr (by decide) (h "values" .values rfl) ?_
  intro values values' hvalues
  show Reading.andThen _ _ = Reading.andThen _ _
  rw [hvalues file place]

theorem readProcedure_congr (h : Looks .procedure m m') (file service : Bytes) (place : Place)
    (name : Bytes) :
    readProcedure file service place name (.object m) =
      readProcedure file service place name (.object m') := by
  unfold readProcedure
  refine membersOf_congr ?_
  refine requiredArray_congr (by decide) (h "parameters" .parameters rfl) ?_
  intro parameters parameters' hparameters
  show Reading.andThen _ _ = Reading.andThen _ _
  rw [hparameters file service place]
  congr 1
  funext ps
  have hresult : readResult file service place m = readResult file service place m' := by
    unfold readResult
    obtain ⟨hm, hm'⟩ | ⟨v, w, hm, hm', hvw⟩ := rel_cases (h "return_type" .type rfl)
    · rw [hm, hm']
    · rw [hm, hm']
      exact (hvw (by decide)).2 file service _
  show Reading.andThen _ _ = Reading.andThen _ _
  rw [hresult]

theorem readValueName_congr (h : Looks .value m m') (file : Bytes) (place : Place) (i : Nat) :
    readValueName file place i (.object m) = readValueName file place i (.object m') := by
  unfold readValueName
  refine membersOf_congr ?_
  have hname : Reading.andThen (requiredString file (place.item "values" i) m "name") .done =
      Reading.andThen (requiredString file (place.item "values" i) m' "name") .done :=
    requiredString_congr (h "name" .string rfl) fun _ _ => rfl
  rwa [Reading.andThen_done, Reading.andThen_done] at hname

theorem readParameter_congr (h : Looks .parameter m m') (file service : Bytes) (place : Place)
    (i : Nat) :
    readParameter file service place i (.object m) =
      readParameter file service place i (.object m') := by
  unfold readParameter
  refine membersOf_congr ?_
  refine requiredString_congr (h "name" .string rfl) ?_
  intro name _
  refine required_congr (h "type" .type rfl) ?_
  intro t t' _ htype
  show Reading.andThen _ _ = Reading.andThen _ _
  rw [(htype (by decide)).2 file service]

/-- Which members of a type count hangs on its code, and the code is the same. -/
theorem readType_congr (h : Looks .type m m') (file service : Bytes) (place : Place) :
    readType file service place (.object m) = readType file service place (.object m') := by
  rw [readType_object, readType_object]
  refine requiredString_congr (h "code" .string rfl) ?_
  intro code hcode
  have hcounts : ∀ key sub,
      List.lookup key ((Bytes.ofString "code", Role.string) ::
        Role.typeFields (Json.member? "code" m)) = some sub →
      Option.Rel (Agree sub) (Json.member? key m) (Json.member? key m') := h
  rw [hcode, Role.typeFields] at hcounts
  by_cases htuple : code = ServiceType.tupleCode
  · rw [if_pos htuple] at hcounts
    rw [if_pos htuple, if_pos htuple]
    refine requiredArray_congr (by decide) (hcounts "types" .types rfl) ?_
    intro items items' hitems
    rw [hitems file service place]
  rw [if_neg htuple] at hcounts
  rw [if_neg htuple, if_neg htuple]
  by_cases hlist : code = ServiceType.listCode
  · rw [if_pos hlist] at hcounts
    rw [if_pos hlist, if_pos hlist]
    refine requiredArray_congr (by decide) (hcounts "types" .elements rfl) ?_
    intro items items' hitems
    exact hitems file service place
  rw [if_neg hlist] at hcounts
  rw [if_neg hlist, if_neg hlist]
  by_cases hclass : code = ServiceType.classCode
  · rw [if_pos hclass] at hcounts
    rw [if_pos hclass, if_pos hclass]
    refine requiredString_congr (hcounts "service" .string rfl) ?_
    intro owner _
    exact requiredString_congr (hcounts "name" .string rfl) fun _ _ => rfl
  · rw [if_neg hclass, if_neg hclass]

end

/-! ## Members that are listed -/

/-- The members in increasing order of their keys have the same keys, and their values agree. -/
def Lists (sub : Role) (m m' : Members) : Prop :=
  List.Forall₂ (fun p q => p.1 = q.1 ∧ Agree sub p.2 q.2) (Json.sortedMembers m)
    (Json.sortedMembers m')

theorem readSorted_congr {α : Type} {sub : Role} {m m' : Members} {f : Bytes → Json → Reading α}
    (hsub : sub ≠ .unread) (h : Lists sub m m')
    (hf : ∀ key v w, SameReading sub v w → f key v = f key w) :
    readSorted f m = readSorted f m' := by
  refine Reading.each_congr ?_ h 0
  rintro i ⟨key, v⟩ ⟨key', w⟩ ⟨rfl, hvw⟩
  exact hf key v w (hvw hsub).2

/-! ## Objects and arrays -/

/-- An object in a role keeps its reading when the keys that count do, or the members in order. -/
theorem sameReading_objects {role : Role} {m m' : Members}
    (hlooks : role.isRecord = true → Looks role m m')
    (hlists : ∀ sub, role.listed? = some sub → Lists sub m m') :
    SameReading role (.object m) (.object m') := by
  cases role with
  | document =>
      intro file
      unfold readServices
      exact membersOf_congr (readSorted_congr (by decide) (hlists .service rfl)
        fun key v w h => h file key)
  | classes =>
      have hkeys : List.Forall₂ (fun p q : Bytes × Json => p.1 = q.1) (Json.sortedMembers m)
          (Json.sortedMembers m') := (hlists .unread rfl).imp fun _ _ h => h.1
      show List.map Prod.fst _ = List.map Prod.fst _
      rwa [← List.forall₂_eq_eq_eq, List.forall₂_map_left_iff, List.forall₂_map_right_iff]
  | enumerations =>
      intro file place
      exact readSorted_congr (by decide) (hlists .enumeration rfl) fun key v w h => h file _ key
  | procedures =>
      intro file service place
      exact readSorted_congr (by decide) (hlists .procedure rfl)
        fun key v w h => h file service _ key
  | service => exact readService_congr (hlooks rfl)
  | enumeration => exact readEnumeration_congr (hlooks rfl)
  | value => exact readValueName_congr (hlooks rfl)
  | procedure => exact readProcedure_congr (hlooks rfl)
  | parameter => exact readParameter_congr (hlooks rfl)
  | type => exact readType_congr (hlooks rfl)
  | _ => trivial

theorem forall₂_replace {α : Type} {R : α → α → Prop} (hrefl : ∀ a, R a a) {a b : α} (h : R a b)
    (before after : List α) : List.Forall₂ R (before ++ a :: after) (before ++ b :: after) :=
  List.rel_append (List.forall₂_same.mpr fun c _ => hrefl c)
    (.cons h (List.forall₂_same.mpr fun c _ => hrefl c))

theorem sameReading_arrays {role : Role} {before after : List Json} {v w : Json}
    (h : Agree (role.item before.length) v w) :
    SameReading role (.array (before ++ v :: after)) (.array (before ++ w :: after)) := by
  have hitems : ∀ sub, role.item before.length = sub →
      List.Forall₂ (Agree sub) (before ++ v :: after) (before ++ w :: after) := by
    rintro sub rfl
    exact forall₂_replace (Agree.refl _) h before after
  cases role with
  | values =>
      intro file place
      exact Reading.each_congr (fun i a b hab => (hab (by decide)).2 file place i)
        (hitems .value rfl) 0
  | parameters =>
      intro file service place
      exact Reading.each_congr (fun i a b hab => (hab (by decide)).2 file service place i)
        (hitems .parameter rfl) 0
  | types =>
      intro file service place
      rw [readTypes_eq_each, readTypes_eq_each]
      exact Reading.each_congr (fun i a b hab => (hab (by decide)).2 file service _)
        (hitems .type rfl) 0
  | elements =>
      intro file service place
      cases before with
      | nil =>
          show Reading.andThen _ _ = Reading.andThen _ _
          rw [(h (by decide)).2 file service]
      | cons first before =>
          simp [readElement]
  | document => exact fun _ => rfl
  | service => exact fun _ _ => rfl
  | enumeration | value => exact fun _ _ _ => rfl
  | procedure | parameter => exact fun _ _ _ _ => rfl
  | type =>
      intro file service place
      simp only [readType, Json.kind]
  | _ => trivial

/-! ## Changes -/

theorem Role.member_of_field? {role sub : Role} {members : Members} {key : Bytes}
    (hrecord : role.isRecord = true) (h : role.field? members key = some sub) :
    role.member members key = sub := by
  have hlisted : role.listed? = none := by cases role <;> first | rfl | cases hrecord
  rw [Role.member, hlisted, h]
  rfl

theorem Change.agree {role : Role} {v w : Json} (h : Change role v w) : Agree role v w := by
  induction h with
  | permute hnodup hperm =>
      refine fun _ => ⟨rfl, sameReading_objects ?_ ?_⟩
      · intro _ key sub _
        rw [member?_perm hnodup hperm]
        exact rel_agree_refl _ _
      · intro sub _
        rw [Lists, sortedMembers_perm hnodup hperm, List.forall₂_same]
        exact fun p _ => ⟨rfl, .refl sub p.2⟩
  | @drop role before after key v hrecord hfield =>
      refine fun _ => ⟨rfl, sameReading_objects ?_ ?_⟩
      · intro _ key' sub hsub
        have hne : key ≠ key' := by
          rintro rfl
          rw [hfield] at hsub
          cases hsub
        rw [member?_append_cons_of_ne hne]
        exact rel_agree_refl _ _
      · intro sub hsub
        cases role <;> cases hrecord <;> cases hsub
  | unread => exact fun h => absurd rfl h
  | @member role before after key v w _ ih =>
      refine fun _ => ⟨rfl, sameReading_objects ?_ ?_⟩
      · intro hrecord key' sub hsub
        by_cases hkey : key = key'
        · subst hkey
          rw [Role.member_of_field? hrecord hsub] at ih
          obtain hfound | ⟨u, hfound⟩ := member?_append_cons_self
          · rw [hfound, hfound]
            exact .some ih
          · rw [hfound, hfound]
            exact rel_agree_refl _ _
        · rw [member?_append_cons_of_ne hkey, member?_append_cons_of_ne hkey]
          exact rel_agree_refl _ _
      · intro sub hsub
        rw [Role.member, hsub] at ih
        refine Bytes.sortOn_forall₂ (fun p q h => h.1) ?_
        exact forall₂_replace (fun p => ⟨rfl, .refl sub p.2⟩) ⟨rfl, ih⟩ before after
  | item _ ih => exact fun _ => ⟨rfl, sameReading_arrays ih⟩

/-- However many changes are made, the services that are read stay the same. -/
theorem readServices_eq_of_eqvGen {v w : Json} (h : Relation.EqvGen (Change .document) v w)
    (file : Bytes) : readServices file v = readServices file w := by
  induction h with
  | rel v w h => exact (h.agree (by decide)).2 file
  | refl v => rfl
  | symm v w _ ih => exact ih.symm
  | trans u v w _ _ ihu ihw => exact ihu.trans ihw

end RpcBindings.Document

namespace RpcBindings.Generation

open RpcBindings.Document (Change Equivalent)

/-- Equivalent texts have one outcome for every file name and every allowance: the same document with
the same warnings, or the same failure. -/
theorem readDocument_eq_of_equivalent {data data' : Bytes} (h : Equivalent data data')
    (allowance : Allowance) (file : Bytes) :
    readDocument allowance file data = readDocument allowance file data' := by
  rcases h with ⟨v, w, hv, hw, hchanges⟩
  have hread : Document.read file data = Document.read file data' := by
    rw [Document.read, Document.read, Json.parse?_eq_some_iff.mpr hv, Json.parse?_eq_some_iff.mpr hw]
    simp only [Document.readServices_eq_of_eqvGen hchanges file]
  rw [readDocument, readDocument, hread]

set_option maxRecDepth 4000 in
/-- A class gets another body, the members of the service another order, and one comes that does not
count. -/
theorem readDocument_eq_of_three_changes :
    Equivalent
      (Bytes.ofString "\x7b\"S\":\x7b\"classes\":\x7b\"C\":1\x7d,\"enumerations\":\x7b\x7d,
        \"procedures\":\x7b\x7d\x7d\x7d")
      (Bytes.ofString "\x7b\"S\":\x7b\"doc\":[],\"procedures\":\x7b\x7d,\"classes\":\x7b\"C\":
        null\x7d,\"enumerations\":\x7b\x7d\x7d\x7d") ∧
    readDocument (.checks 1) "a.json"
      (Bytes.ofString "\x7b\"S\":\x7b\"classes\":\x7b\"C\":1\x7d,\"enumerations\":\x7b\x7d,
        \"procedures\":\x7b\x7d\x7d\x7d") =
    readDocument (.checks 1) "a.json"
      (Bytes.ofString "\x7b\"S\":\x7b\"doc\":[],\"procedures\":\x7b\x7d,\"classes\":\x7b\"C\":
        null\x7d,\"enumerations\":\x7b\x7d\x7d\x7d") := by
  have hbody : Change .document
      (.object [("S", .object [("classes", .object [("C", .number "1")]),
        ("enumerations", .object []), ("procedures", .object [])])])
      (.object [("S", .object [("classes", .object [("C", .null)]),
        ("enumerations", .object []), ("procedures", .object [])])]) :=
    @Change.member .document [] [] "S" _ _ <| @Change.member .service [] _ "classes" _ _ <|
      @Change.member .classes [] [] "C" _ _ .unread
  have horder : Change .document
      (.object [("S", .object [("classes", .object [("C", .null)]),
        ("enumerations", .object []), ("procedures", .object [])])])
      (.object [("S", .object [("procedures", .object []),
        ("classes", .object [("C", .null)]), ("enumerations", .object [])])]) :=
    @Change.member .document [] [] "S" _ _ <| .permute (by decide)
      (@List.perm_append_comm _ [_, _] [_])
  have hdrop : Change .document
      (.object [("S", .object [("doc", .array []), ("procedures", .object []),
        ("classes", .object [("C", .null)]), ("enumerations", .object [])])])
      (.object [("S", .object [("procedures", .object []),
        ("classes", .object [("C", .null)]), ("enumerations", .object [])])]) :=
    @Change.member .document [] [] "S" _ _ <| @Change.drop .service [] _ "doc" _ rfl rfl
  have hequivalent := Relation.EqvGen.trans _ _ _ (.rel _ _ hbody)
    (.trans _ _ _ (.rel _ _ horder) (.symm _ _ (.rel _ _ hdrop)))
  refine ⟨?_, readDocument_eq_of_equivalent ?_ _ _⟩
  all_goals
    exact ⟨_, _, Json.parse?_eq_some_iff.mp rfl, Json.parse?_eq_some_iff.mp rfl, hequivalent⟩

end RpcBindings.Generation
