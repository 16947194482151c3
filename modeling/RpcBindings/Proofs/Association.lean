import Mathlib.Data.List.Nodup

/-!
# Association lists

Names that are taken, files in memory and the nodes of a tree are all kept as lists of keys with values,
and looked up by key: the first entry with a key counts.  Where every key is there once, an entry is in
the list exactly if it is what is found under its key.
-/

set_option autoImplicit false

namespace RpcBindings.Association

variable {κ ν : Type}

theorem lookup_cons_eq [BEq κ] (entries : List (κ × ν)) (p k : κ) (v : ν) :
    ((p, v) :: entries).lookup k = if k == p then some v else entries.lookup k := by
  rw [List.lookup_cons]
  cases k == p <;> rfl

theorem lookup_map_snd [BEq κ] {μ : Type} (f : ν → μ) (entries : List (κ × ν)) (k : κ) :
    (entries.map fun e => (e.1, f e.2)).lookup k = (entries.lookup k).map f := by
  induction entries with
  | nil => rfl
  | cons e entries ih =>
      rw [List.map_cons, lookup_cons_eq, lookup_cons_eq, ih]
      split <;> rfl

section

variable [BEq κ] [LawfulBEq κ] {entries : List (κ × ν)} {k p : κ} {v : ν}

theorem lookup_cons_of_ne (h : k ≠ p) : ((p, v) :: entries).lookup k = entries.lookup k := by
  simp [lookup_cons_eq, h]

/-- Nothing is found under a key that no entry has. -/
theorem lookup_eq_none_iff_not_mem : entries.lookup k = none ↔ k ∉ entries.map Prod.fst := by
  rw [List.lookup_eq_none_iff, List.mem_map]
  constructor
  · rintro h ⟨e, he, rfl⟩
    exact absurd rfl (bne_iff_ne.mp (h e he))
  · intro h e he
    rw [bne_iff_ne]
    rintro rfl
    exact h ⟨e, he, rfl⟩

/-- Where every key is there once, the entries are what is found. -/
theorem mem_iff_lookup_eq_some (h : (entries.map Prod.fst).Nodup) :
    (k, v) ∈ entries ↔ entries.lookup k = some v := by
  rw [List.lookup_eq_some_iff]
  constructor
  · intro hmem
    obtain ⟨before, after, rfl⟩ := List.append_of_mem hmem
    refine ⟨before, after, rfl, ?_⟩
    intro e he
    rw [List.map_append, List.map_cons, List.nodup_append] at h
    exact bne_iff_ne.mpr (Ne.symm (h.2.2 e.1 (List.mem_map_of_mem he) k (by simp)))
  · rintro ⟨before, after, rfl, -⟩
    simp

/-! ## Leaving a key out -/

theorem lookup_filter_of_ne [DecidableEq κ] (h : k ≠ p) :
    (entries.filter fun e => e.1 ≠ p).lookup k = entries.lookup k := by
  induction entries with
  | nil => rfl
  | cons e entries ih =>
      obtain ⟨q, v⟩ := e
      by_cases hq : q = p
      · rw [List.filter_cons_of_neg (by simpa using hq), ih, lookup_cons_of_ne (by rwa [hq])]
      · rw [List.filter_cons_of_pos (by simpa using hq), lookup_cons_eq, lookup_cons_eq, ih]

theorem lookup_filter_self [DecidableEq κ] (entries : List (κ × ν)) (p : κ) :
    (entries.filter fun e => e.1 ≠ p).lookup p = none := by
  rw [lookup_eq_none_iff_not_mem, List.mem_map]
  rintro ⟨e, he, rfl⟩
  simpa using (List.mem_filter.mp he).2

end

theorem nodup_filter [DecidableEq κ] {entries : List (κ × ν)} (h : (entries.map Prod.fst).Nodup)
    (p : κ) : ((entries.filter fun e => e.1 ≠ p).map Prod.fst).Nodup :=
  h.sublist (List.filter_sublist.map _)

end RpcBindings.Association
