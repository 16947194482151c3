import Mathlib.Data.List.Forall2
import RpcBindings.Text.Bytes

/-!
# Cutting, joining and sorting byte strings

Bytes that are cut at a byte hold it no longer, and joining the parts gives the bytes again.

What it means to list items in increasing order of their keys, said without a sorting algorithm: the
keys increase, and the items with any one key are those that were given, in the order in which they
were given.  Only one list has both properties, and `Bytes.sortOn` makes it.
-/

set_option autoImplicit false

namespace RpcBindings.Bytes

/-- What holds of the bytes with the numbers below 256 holds of all bytes. -/
theorem forall_byte {P : UInt8 → Prop} (h : ∀ n < 256, P (UInt8.ofNat n)) (b : UInt8) : P b := by
  have hb := h b.toNat b.toNat_lt
  rwa [UInt8.ofNat_toNat] at hb

/-! ## Cutting -/

theorem after?_eq_some_iff {lead bs r : Bytes} : after? lead bs = some r ↔ bs = lead ++ r := by
  induction lead generalizing bs with
  | nil => simp [after?]
  | cons l lead ih =>
      cases bs with
      | nil => simp [after?]
      | cons b bs =>
          by_cases hl : l = b
          · simp [after?, hl, ih]
          · simp [after?, hl, Ne.symm hl]

section

variable {sep : UInt8}

theorem split_of_not_mem {bs : Bytes} (h : sep ∉ bs) : split sep bs = [bs] := by
  induction bs with
  | nil => rfl
  | cons b bs ih =>
      rw [List.mem_cons, not_or] at h
      rw [split, if_neg (Ne.symm h.1), ih h.2]

theorem split_append_cons (bs cs : Bytes) :
    split sep (bs ++ sep :: cs) = split sep bs ++ split sep cs := by
  induction bs with
  | nil => simp [split]
  | cons b bs ih =>
      rw [List.cons_append, split, split, ih]
      split
      · rfl
      · cases hbs : split sep bs with
        | nil => exact absurd hbs (split_ne_nil sep bs)
        | cons part parts => rfl

theorem not_mem_of_mem_split {bs part : Bytes} (h : part ∈ split sep bs) : sep ∉ part := by
  induction bs generalizing part with
  | nil =>
      rw [split, List.mem_singleton] at h
      simp [h]
  | cons b bs ih =>
      rw [split] at h
      split at h
      · rcases List.mem_cons.mp h with rfl | h
        · simp
        · exact ih h
      · rename_i hb
        cases hbs : split sep bs with
        | nil => exact absurd hbs (split_ne_nil sep bs)
        | cons first parts =>
            rw [hbs] at h ih
            rcases List.mem_cons.mp h with rfl | h
            · have hfirst : sep ∉ first := ih (by simp)
              simp [Ne.symm hb, hfirst]
            · exact ih (List.mem_cons_of_mem _ h)

/-- What stands between two of the bytes is one of the parts. -/
theorem mem_split_of_between {part : Bytes} (h : sep ∉ part) (front back : Bytes) :
    part ∈ split sep (front ++ sep :: (part ++ sep :: back)) := by
  rw [split_append_cons, split_append_cons, split_of_not_mem h]
  simp

theorem split_join {parts : List Bytes} (hne : parts ≠ []) (h : ∀ part ∈ parts, sep ∉ part) :
    split sep (join [sep] parts) = parts := by
  induction parts with
  | nil => exact absurd rfl hne
  | cons part parts ih =>
      rw [List.forall_mem_cons] at h
      cases parts with
      | nil => exact split_of_not_mem h.1
      | cons next rest =>
          rw [join, List.append_assoc, List.singleton_append, split_append_cons,
            split_of_not_mem h.1, ih (List.cons_ne_nil _ _) h.2]
          rfl

/-- Joining what was cut gives the bytes again. -/
theorem join_split (sep : UInt8) (bs : Bytes) : join [sep] (split sep bs) = bs := by
  induction bs with
  | nil => rfl
  | cons b bs ih =>
      rw [split]
      cases hbs : split sep bs with
      | nil => exact absurd hbs (split_ne_nil sep bs)
      | cons part parts =>
          rw [hbs] at ih
          by_cases hb : b = sep
          · rw [if_pos hb, join, ih, hb]
            rfl
          · rw [if_neg hb]
            cases parts with
            | nil => exact congrArg (List.cons b) ih
            | cons next rest => exact congrArg (List.cons b) ih

/-- Parts that are joined in two groups. -/
theorem join_append (sep : Bytes) {first second : List Bytes} (hfirst : first ≠ [])
    (hsecond : second ≠ []) :
    join sep (first ++ second) = join sep first ++ sep ++ join sep second := by
  induction first with
  | nil => exact absurd rfl hfirst
  | cons part first ih =>
      cases first with
      | nil =>
          cases second with
          | nil => exact absurd rfl hsecond
          | cons next rest => rfl
      | cons next rest =>
          rw [List.cons_append, List.cons_append, join, join, ← List.cons_append,
            ih (List.cons_ne_nil _ _)]
          simp only [List.append_assoc]

end

/-! ## Sorting -/

variable {α : Type} {key : α → Bytes}

/-- `sorted` lists `items` in increasing order of their keys, and those with one key in the order
they had. -/
structure Sorts (key : α → Bytes) (items sorted : List α) : Prop where
  increasing : sorted.Pairwise fun a b => key a ≤ key b
  stable : ∀ k : Bytes, (sorted.filter fun a => key a = k) = items.filter fun a => key a = k

theorem mem_of_filter_eq {xs ys : List α} {a : α} (ha : a ∈ xs)
    (h : (xs.filter fun b => key b = key a) = ys.filter fun b => key b = key a) : a ∈ ys := by
  have hm : a ∈ xs.filter fun b => key b = key a := by simp [ha]
  rw [h] at hm
  exact (List.mem_filter.mp hm).1

theorem Sorts.mem_iff {items sorted : List α} (h : Sorts key items sorted) (a : α) :
    a ∈ sorted ↔ a ∈ items :=
  ⟨fun ha => mem_of_filter_eq ha (h.stable _), fun ha => mem_of_filter_eq ha (h.stable _).symm⟩

theorem sortOn_sorts (key : α → Bytes) (items : List α) : Sorts key items (sortOn key items) := by
  have htrans : ∀ a b c : α, decide (key a ≤ key b) = true → decide (key b ≤ key c) = true →
      decide (key a ≤ key c) = true := by
    intro a b c hab hbc
    exact decide_eq_true (List.le_trans (of_decide_eq_true hab) (of_decide_eq_true hbc))
  have htotal : ∀ a b : α, (decide (key a ≤ key b) || decide (key b ≤ key a)) = true := by
    intro a b
    simpa using List.le_total (key a) (key b)
  refine ⟨?_, ?_⟩
  · exact (List.pairwise_mergeSort htrans htotal items).imp fun h => of_decide_eq_true h
  · intro k
    -- The items with one key are in order already, so sorting keeps them as a sublist; and it
    -- keeps their number.
    have hordered : (items.filter fun a => key a = k).Pairwise
        fun a b => decide (key a ≤ key b) = true := by
      rw [List.pairwise_iff_forall_sublist]
      intro a b hab
      have hak : key a = k := by simpa using (List.mem_filter.mp (hab.mem (by simp))).2
      have hbk : key b = k := by simpa using (List.mem_filter.mp (hab.mem (by simp))).2
      simp [hak, hbk]
    have hsub : (items.filter fun a => key a = k).Sublist (sortOn key items) :=
      List.sublist_mergeSort htrans htotal hordered List.filter_sublist
    have hfiltered := hsub.filter fun a => decide (key a = k)
    rw [List.filter_filter] at hfiltered
    simp only [Bool.and_self] at hfiltered
    have hperm := (List.mergeSort_perm items fun a b => decide (key a ≤ key b)).filter
      fun a => decide (key a = k)
    exact (hfiltered.eq_of_length hperm.length_eq.symm).symm

theorem sortOn_eq_nil_iff {items : List α} : sortOn key items = [] ↔ items = [] := by
  rw [← List.length_eq_zero_iff, sortOn, List.length_mergeSort, List.length_eq_zero_iff]

/-- The first of items in order has the least key. -/
theorem key_head_le {a b : α} {xs : List α} (h : (a :: xs).Pairwise fun x y => key x ≤ key y)
    (hb : b ∈ a :: xs) : key a ≤ key b := by
  obtain rfl | hb := List.mem_cons.mp hb
  · exact List.le_refl _
  · exact (List.pairwise_cons.mp h).1 b hb

/-- Two lists with increasing keys agree once they agree on each key. -/
theorem eq_of_filter_eq {xs ys : List α} (hxs : xs.Pairwise fun a b => key a ≤ key b)
    (hys : ys.Pairwise fun a b => key a ≤ key b)
    (h : ∀ k : Bytes, (xs.filter fun a => key a = k) = ys.filter fun a => key a = k) :
    xs = ys := by
  induction xs generalizing ys with
  | nil =>
      cases ys with
      | nil => rfl
      | cons b ys => exact absurd (mem_of_filter_eq (by simp) (h (key b)).symm) (by simp)
  | cons a xs ih =>
      cases ys with
      | nil => exact absurd (mem_of_filter_eq (by simp) (h (key a))) (by simp)
      | cons b ys =>
          -- Both heads have the least key, so they are the first item with that key.
          have hkey : key a = key b := List.le_antisymm
            (key_head_le hxs (mem_of_filter_eq (by simp) (h (key b)).symm))
            (key_head_le hys (mem_of_filter_eq (by simp) (h (key a))))
          have hhead := h (key b)
          simp only [List.filter_cons, hkey, decide_true, if_true, List.cons.injEq] at hhead
          obtain ⟨rfl, _⟩ := hhead
          have htail : xs = ys := by
            refine ih hxs.of_cons hys.of_cons ?_
            intro k
            have hk := h k
            simp only [List.filter_cons] at hk
            split at hk
            · exact (List.cons.inj hk).2
            · exact hk
          rw [htail]

/-- There is one sorted list, the one that `sortOn` makes. -/
theorem sorts_iff {items sorted : List α} :
    Sorts key items sorted ↔ sorted = sortOn key items := by
  have hsort := sortOn_sorts key items
  constructor
  · intro h
    exact eq_of_filter_eq h.increasing hsort.increasing fun k => by rw [h.stable, hsort.stable]
  · rintro rfl
    exact hsort

theorem sortOn_map {β : Type} (f : β → α) (key : α → Bytes) (items : List β) :
    sortOn key (items.map f) = (sortOn (fun b => key (f b)) items).map f := by
  have hsort := sortOn_sorts (fun b => key (f b)) items
  refine (sorts_iff.mp ⟨List.pairwise_map.mpr hsort.increasing, ?_⟩).symm
  intro k
  have hstable := congrArg (List.map f) (hsort.stable k)
  rw [List.filter_map, List.filter_map]
  exact hstable

theorem mem_sort_iff {names : List Bytes} {name : Bytes} : name ∈ sort names ↔ name ∈ names :=
  (sortOn_sorts id names).mem_iff name

/-- Names that are different from each other are put in strictly increasing order. -/
theorem sort_increasing {names : List Bytes} (h : names.Nodup) : (sort names).Pairwise (· < ·) := by
  have hle : (sort names).Pairwise (· ≤ ·) := (sortOn_sorts id names).increasing
  have hne : (sort names).Pairwise (· ≠ ·) := ((List.mergeSort_perm names _).nodup_iff).mpr h
  refine (hle.and hne).imp ?_
  rintro a b ⟨hab, hne⟩
  exact (List.le_iff_lt_or_eq.mp hab).resolve_right hne

/-- Items that are related one by one and have the same keys stay related when they are sorted. -/
theorem sortOn_forall₂ {β : Type} {R : α → β → Prop} {key' : β → Bytes} {as : List α} {bs : List β}
    (hkey : ∀ a b, R a b → key a = key' b) (h : List.Forall₂ R as bs) :
    List.Forall₂ R (sortOn key as) (sortOn key' bs) := by
  -- Both lists come from one list of related pairs, which is sorted instead of them.
  obtain ⟨pairs, rfl, rfl⟩ : ∃ pairs : List { p : α × β // R p.1 p.2 },
      pairs.map (fun p => p.1.1) = as ∧ pairs.map (fun p => p.1.2) = bs := by
    induction h with
    | nil => exact ⟨[], rfl, rfl⟩
    | @cons a b as bs hab _ ih =>
        obtain ⟨pairs, rfl, rfl⟩ := ih
        exact ⟨⟨(a, b), hab⟩ :: pairs, rfl, rfl⟩
  have hsame : (fun p : { p : α × β // R p.1 p.2 } => key p.1.1) = fun p => key' p.1.2 :=
    funext fun p => hkey _ _ p.2
  rw [sortOn_map, sortOn_map, hsame, List.forall₂_map_left_iff, List.forall₂_map_right_iff,
    List.forall₂_same]
  exact fun p _ => p.2

end RpcBindings.Bytes
