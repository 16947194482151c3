import Mathlib.Data.Finset.Card
import Mathlib.Data.List.Forall2
import RpcBindings.Proofs.Association

/-!
# Keys that are taken

Services want a name each, and so do methods.  Both are gone through in their order, with a list of
the names that are taken and of who took them, and whoever wants a name that is taken is reported
with the one who holds it.  `reportsFrom` is this loop for any kind of key.

Its invariant is that a key is held by whoever held it at the start, or else by the first item that
wanted it (`holder`).  From it follows what the reports are: one for each item whose key is taken
where it stands, in the order of the items, and each names the first holder, however many others
wanted the key in between.
-/

set_option autoImplicit false

namespace RpcBindings

/-! ## One for each place -/

/-- The items tell about the places of which `P` holds: one for each, in the order of the places,
and related to its place by `R`. -/
def OneForEach {ω : Type} (P : Nat → Prop) (R : Nat → ω → Prop) (items : List ω) : Prop :=
  ∃ places : List Nat, places.Pairwise (· < ·) ∧ (∀ i, i ∈ places ↔ P i) ∧
    List.Forall₂ R places items

namespace OneForEach

variable {ω : Type} {P Q : Nat → Prop} {R S : Nat → ω → Prop} {items : List ω}

theorem imp (h : OneForEach P R items) (hP : ∀ i, P i ↔ Q i) (hR : ∀ i w, R i w → S i w) :
    OneForEach Q S items := by
  obtain ⟨places, hincreasing, hmem, hitems⟩ := h
  exact ⟨places, hincreasing, fun i => (hmem i).trans (hP i), hitems.imp hR⟩

theorem nil (hP : ∀ i, ¬ P i) : OneForEach P R [] :=
  ⟨[], .nil, fun i => iff_of_false List.not_mem_nil (hP i), .nil⟩

theorem cons {n : Nat} {w : ω} (hP : P n) (hR : R n w)
    (h : OneForEach (fun i => n < i ∧ P i) R items) :
    OneForEach (fun i => n ≤ i ∧ P i) R (w :: items) := by
  obtain ⟨places, hincreasing, hmem, hitems⟩ := h
  refine ⟨n :: places, List.pairwise_cons.mpr ⟨fun i hi => ((hmem i).mp hi).1, hincreasing⟩, ?_,
    .cons hR hitems⟩
  intro i
  rw [List.mem_cons, hmem]
  constructor
  · rintro (rfl | ⟨hlt, hi⟩)
    · exact ⟨Nat.le_refl _, hP⟩
    · exact ⟨Nat.le_of_lt hlt, hi⟩
  · rintro ⟨hle, hi⟩
    obtain rfl | hlt := Nat.eq_or_lt_of_le hle
    · exact .inl rfl
    · exact .inr ⟨hlt, hi⟩

theorem skip {n : Nat} (hP : ¬ P n) (h : OneForEach (fun i => n < i ∧ P i) R items) :
    OneForEach (fun i => n ≤ i ∧ P i) R items := by
  refine h.imp (fun i => ?_) fun _ _ => id
  constructor
  · rintro ⟨hlt, hi⟩
    exact ⟨Nat.le_of_lt hlt, hi⟩
  · rintro ⟨hle, hi⟩
    refine ⟨Nat.lt_of_le_of_ne hle ?_, hi⟩
    rintro rfl
    exact hP hi

theorem eq_nil_iff (h : OneForEach P R items) : items = [] ↔ ∀ i, ¬ P i := by
  obtain ⟨places, -, hmem, hitems⟩ := h
  constructor
  · rintro rfl i hi
    rw [List.forall₂_nil_right_iff.mp hitems] at hmem
    exact List.not_mem_nil ((hmem i).mpr hi)
  · intro hP
    have hplaces : places = [] := List.eq_nil_iff_forall_not_mem.mpr fun i hi => hP i ((hmem i).mp hi)
    rw [hplaces] at hitems
    exact List.forall₂_nil_left_iff.mp hitems

end OneForEach

namespace Taken

variable {α κ ν ω : Type} [BEq κ]

/-- Goes through items that want a key each.  An item whose key is taken is reported with the holder
of the key; any other takes its key, under the name that `owner` gives it. -/
def reportsFrom (key : α → κ) (owner : α → ν) (report : α → ν → ω) (taken : List (κ × ν)) :
    List α → List ω
  | [] => []
  | a :: rest =>
      match taken.lookup (key a) with
      | some held => report a held :: reportsFrom key owner report taken rest
      | none => reportsFrom key owner report ((key a, owner a) :: taken) rest

/-- Who holds a key when the items were gone through: who held it at the start, or else the first
item that wanted it. -/
def holder (key : α → κ) (owner : α → ν) (start : List (κ × ν)) (as : List α) (k : κ) : Option ν :=
  (start.lookup k).or ((as.find? fun a => key a == k).map owner)

/-- The item stands in the list, and none before it has its key. -/
def IsFirst (key : α → κ) (as : List α) (a : α) : Prop :=
  ∃ before after, as = before ++ a :: after ∧ ∀ b ∈ before, key b ≠ key a

omit [BEq κ] in
theorem IsFirst.mem {key : α → κ} {as : List α} {a : α} (h : IsFirst key as a) : a ∈ as := by
  obtain ⟨before, after, rfl, -⟩ := h
  simp

variable {key : α → κ} {owner : α → ν} {report : α → ν → ω} {start taken : List (κ × ν)}

theorem holder_nil (k : κ) : holder key owner start [] k = start.lookup k := by
  simp [holder]

theorem holder_append (before rest : List α) (k : κ) :
    holder key owner start (before ++ rest) k =
      (holder key owner start before k).or ((rest.find? fun a => key a == k).map owner) := by
  rw [holder, holder, List.find?_append, Option.map_or, Option.or_assoc]

/-! ## One step -/

theorem reportsFrom_cons_of_held {a : α} {held : ν} (h : taken.lookup (key a) = some held)
    (rest : List α) :
    reportsFrom key owner report taken (a :: rest) =
      report a held :: reportsFrom key owner report taken rest := by
  rw [reportsFrom, h]

theorem reportsFrom_cons_of_free {a : α} (h : taken.lookup (key a) = none) (rest : List α) :
    reportsFrom key owner report taken (a :: rest) =
      reportsFrom key owner report ((key a, owner a) :: taken) rest := by
  rw [reportsFrom, h]

/-- What is kept of an owner does not matter, as long as the owner can be told from it. -/
theorem reportsFrom_kept {μ : Type} {kept : α → μ} (tell : μ → ν) {as : List α}
    (h : ∀ a ∈ as, tell (kept a) = owner a) (start : List (κ × μ)) :
    reportsFrom key kept (fun a m => report a (tell m)) start as =
      reportsFrom key owner report (start.map fun e => (e.1, tell e.2)) as := by
  induction as generalizing start with
  | nil => rfl
  | cons a rest ih =>
      rw [List.forall_mem_cons] at h
      rw [reportsFrom, reportsFrom, Association.lookup_map_snd]
      cases start.lookup (key a) with
      | some held => exact congrArg _ (ih h.2 start)
      | none =>
          rw [← h.1]
          exact ih h.2 _

section

variable [LawfulBEq κ]

/-- A key that is held stays with its holder, whoever else wants it. -/
theorem holder_of_held {before : List α} {a : α} {held : ν}
    (h : holder key owner start before (key a) = some held) (k : κ) :
    holder key owner start (before ++ [a]) k = holder key owner start before k := by
  rw [holder_append]
  by_cases hk : key a = k
  · rw [← hk, h]
    rfl
  · simp [hk]

/-- A key that nobody holds goes to the item that wants it. -/
theorem holder_of_free {before : List α} {a : α}
    (h : holder key owner start before (key a) = none) (k : κ) :
    holder key owner start (before ++ [a]) k =
      if key a == k then some (owner a) else holder key owner start before k := by
  rw [holder_append]
  by_cases hk : key a = k
  · rw [← hk, h]
    simp
  · simp [hk]

/-! ## The whole run -/

/-- The reports on the rest of a list, when `taken` says who holds the keys after the items before
it. -/
theorem reportsFrom_rest (before : List α)
    (h : ∀ k, taken.lookup k = holder key owner start before k) (rest : List α) :
    OneForEach
      (fun i => before.length ≤ i ∧ ∃ a held, (before ++ rest)[i]? = some a ∧
        holder key owner start ((before ++ rest).take i) (key a) = some held)
      (fun i w => ∃ a held, (before ++ rest)[i]? = some a ∧
        holder key owner start ((before ++ rest).take i) (key a) = some held ∧ w = report a held)
      (reportsFrom key owner report taken rest) := by
  induction rest generalizing before taken with
  | nil =>
      refine .nil ?_
      rintro i ⟨hle, a, -, ha, -⟩
      rw [List.append_nil, List.getElem?_eq_none hle] at ha
      cases ha
  | cons a rest ih =>
      have hplace : (before ++ a :: rest)[before.length]? = some a := by simp
      have htake : (before ++ a :: rest).take before.length = before := List.take_left
      have hsplit : before ++ a :: rest = (before ++ [a]) ++ rest := by simp
      cases hheld : taken.lookup (key a) with
      | some held =>
          rw [reportsFrom_cons_of_held hheld]
          have hholder : holder key owner start before (key a) = some held := (h _).symm.trans hheld
          refine .cons ⟨a, held, hplace, by rw [htake, hholder]⟩
            ⟨a, held, hplace, by rw [htake, hholder], rfl⟩ ?_
          have hrest := ih (before ++ [a]) fun k => by rw [h, holder_of_held hholder]
          rwa [← hsplit, List.length_append] at hrest
      | none =>
          rw [reportsFrom_cons_of_free hheld]
          have hholder : holder key owner start before (key a) = none := (h _).symm.trans hheld
          refine .skip ?_ ?_
          · rintro ⟨b, held, hb, hbheld⟩
            rw [hplace] at hb
            obtain rfl := Option.some.inj hb
            rw [htake, hholder] at hbheld
            cases hbheld
          · have hrest := ih (before ++ [a]) fun k => by
              rw [Association.lookup_cons_eq, BEq.comm, holder_of_free hholder, h]
            rwa [← hsplit, List.length_append] at hrest

/-! ## What the reports say -/

theorem exists_holder_take_iff {as : List α} {i : Nat} {a : α} :
    (∃ held, holder key owner start (as.take i) (key a) = some held) ↔
      (∃ held, start.lookup (key a) = some held) ∨
        ∃ j < i, ∃ b, as[j]? = some b ∧ key b = key a := by
  have hfind : (∃ held, ((as.take i).find? fun b => key b == key a).map owner = some held) ↔
      ∃ j < i, ∃ b, as[j]? = some b ∧ key b = key a := by
    simp only [← Option.isSome_iff_exists, Option.isSome_map, List.find?_isSome, beq_iff_eq,
      List.mem_iff_getElem?, List.getElem?_take]
    constructor
    · rintro ⟨b, ⟨j, hj⟩, hb⟩
      split_ifs at hj with hlt
      exact ⟨j, hlt, b, hj, hb⟩
    · rintro ⟨j, hlt, b, hj, hb⟩
      exact ⟨b, ⟨j, by rw [if_pos hlt, hj]⟩, hb⟩
  rw [← hfind]
  simp only [← Option.isSome_iff_exists, holder, Option.isSome_or, Bool.or_eq_true]

theorem isFirst_of_find?_take {as : List α} {i : Nat} {k : κ} {first : α}
    (h : ((as.take i).find? fun b => key b == k) = some first) :
    IsFirst key as first ∧ key first = k := by
  obtain ⟨hkey, before, after, htake, hbefore⟩ := List.find?_eq_some_iff_append.mp h
  have hkey : key first = k := by simpa using hkey
  refine ⟨⟨before, after ++ as.drop i, ?_, ?_⟩, hkey⟩
  · rw [← List.cons_append, ← List.append_assoc, ← htake, List.take_append_drop]
  · intro b hb
    simpa [hkey] using hbefore b hb

theorem holder_take_cases {as : List α} {i : Nat} {k : κ} {held : ν}
    (h : holder key owner start (as.take i) k = some held) :
    start.lookup k = some held ∨
      start.lookup k = none ∧ ∃ first, IsFirst key as first ∧ key first = k ∧ held = owner first := by
  rw [holder, Option.or_eq_some_iff] at h
  obtain hstart | ⟨hstart, hfirst⟩ := h
  · exact .inl hstart
  · obtain ⟨first, hfind, rfl⟩ := Option.map_eq_some_iff.mp hfirst
    obtain ⟨hisFirst, hkey⟩ := isFirst_of_find?_take hfind
    exact .inr ⟨hstart, first, hisFirst, hkey, rfl⟩

/-- There is one report, in order, for each item whose key was taken at the start or is that of an
earlier item.  It names who held the key at the start, or else the first item that has it. -/
theorem reportsFrom_oneForEach (as : List α) :
    OneForEach
      (fun i => ∃ a, as[i]? = some a ∧ ((∃ held, start.lookup (key a) = some held) ∨
        ∃ j < i, ∃ b, as[j]? = some b ∧ key b = key a))
      (fun i w => ∃ a held, as[i]? = some a ∧ w = report a held ∧
        (start.lookup (key a) = some held ∨ start.lookup (key a) = none ∧
          ∃ first, IsFirst key as first ∧ key first = key a ∧ held = owner first))
      (reportsFrom key owner report start as) := by
  refine (reportsFrom_rest [] (fun k => (holder_nil k).symm) as).imp ?_ ?_
  · intro i
    simp only [List.nil_append, List.length_nil, Nat.zero_le, true_and, exists_and_left,
      exists_holder_take_iff]
  · rintro i w ⟨a, held, ha, hheld, rfl⟩
    exact ⟨a, held, ha, rfl, holder_take_cases hheld⟩

/-- Nothing is reported exactly if the items have different keys, none of which was taken at the start. -/
theorem reportsFrom_eq_nil_iff {as : List α} :
    reportsFrom key owner report start as = [] ↔
      (as.map key).Nodup ∧ ∀ a ∈ as, start.lookup (key a) = none := by
  rw [(reportsFrom_oneForEach as).eq_nil_iff, List.nodup_iff_getElem?_ne_getElem?]
  simp only [List.getElem?_map, List.length_map]
  constructor
  · intro h
    constructor
    · intro j i hj hi hkey
      have ha := List.getElem?_eq_getElem hi
      rw [ha, Option.map_some, Option.map_eq_some_iff] at hkey
      obtain ⟨b, hb, hkey⟩ := hkey
      exact h i ⟨_, ha, .inr ⟨j, hj, b, hb, hkey⟩⟩
    · intro a ha
      obtain ⟨i, hi⟩ := List.mem_iff_getElem?.mp ha
      rw [Option.eq_none_iff_forall_ne_some]
      intro held hheld
      exact h i ⟨a, hi, .inl ⟨held, hheld⟩⟩
  · rintro ⟨hdistinct, hfree⟩ i ⟨a, ha, ⟨held, hheld⟩ | ⟨j, hj, b, hb, hkey⟩⟩
    · rw [hfree a (List.mem_of_getElem? ha)] at hheld
      cases hheld
    · refine hdistinct j i hj (List.getElem?_eq_some_iff.mp ha).1 ?_
      rw [ha, hb, Option.map_some, Option.map_some, hkey]

/-- Items with different keys are reported for what was taken at the start only. -/
theorem reportsFrom_of_nodup {as : List α} (h : (as.map key).Nodup) :
    reportsFrom key owner report taken as =
      as.filterMap fun a => (taken.lookup (key a)).map (report a) := by
  induction as generalizing taken with
  | nil => rfl
  | cons a rest ih =>
      obtain ⟨hnew, hrest⟩ := List.nodup_cons.mp h
      cases hheld : taken.lookup (key a) with
      | some held =>
          rw [reportsFrom_cons_of_held hheld, ih hrest, List.filterMap_cons_some]
          rw [hheld, Option.map_some]
      | none =>
          rw [reportsFrom_cons_of_free hheld, ih hrest, List.filterMap_cons_none]
          · apply List.filterMap_congr
            intro b hb
            have hne : key b ≠ key a := fun heq => hnew (heq ▸ List.mem_map_of_mem hb)
            rw [Association.lookup_cons_of_ne hne]
          · rw [hheld, Option.map_none]

/-- Every item is reported but one for each key that was not taken at the start. -/
theorem length_reportsFrom_add [DecidableEq κ] (taken : List (κ × ν)) (as : List α) :
    (reportsFrom key owner report taken as).length +
      ((as.map key).toFinset.filter fun k => taken.lookup k = none).card = as.length := by
  induction as generalizing taken with
  | nil => simp [reportsFrom]
  | cons a rest ih =>
      rw [List.map_cons, List.toFinset_cons, Finset.filter_insert]
      cases hheld : taken.lookup (key a) with
      | some held =>
          have hrest := ih taken
          rw [reportsFrom_cons_of_held hheld, if_neg (by simp), List.length_cons, List.length_cons]
          omega
      | none =>
          -- The key counts here, and no longer among the rest.
          have hkeys : insert (key a) ((rest.map key).toFinset.filter fun k => taken.lookup k = none) =
              insert (key a) ((rest.map key).toFinset.filter fun k =>
                ((key a, owner a) :: taken).lookup k = none) := by
            ext k
            by_cases hk : k = key a
            · simp [hk]
            · simp only [Finset.mem_insert, Finset.mem_filter, hk, false_or,
                Association.lookup_cons_of_ne hk]
          have hrest := ih ((key a, owner a) :: taken)
          rw [reportsFrom_cons_of_free hheld, if_pos rfl, hkeys,
            Finset.card_insert_of_notMem (by simp), List.length_cons]
          omega

end

end Taken

end RpcBindings
