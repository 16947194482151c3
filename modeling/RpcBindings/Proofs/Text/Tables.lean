import Mathlib.Data.List.Basic
import RpcBindings.Text.Blank
import RpcBindings.Text.CaseMap
import RpcBindings.Text.Digit
import RpcBindings.Text.Letter
import RpcBindings.Text.Lower
import RpcBindings.Text.Upper

/-!
# How the tables of characters fit together

The properties of characters and the case maps are tables that were written down one by one.  What
casing a name relies on is how they fit together: no letter is a digit, no capital a small letter, a
letter stays a letter in either case, and changing the case twice is changing it once.

Such facts hold of every code point, and there are too many to look at each.  So they are read off
the runs.  Two tables are gone through side by side, from the lowest run up, and the runs of one are
compared only with those of the other that they meet.
-/

set_option autoImplicit false

namespace RpcBindings

namespace Run

/-! ## Members -/

theorem has_iff {r : Run} {n : Nat} :
    r.has n = true ↔ r.first ≤ n ∧ n ≤ r.last ∧ (n - r.first) % r.step = 0 := by
  simp [has, and_assoc]

theorem mem_cons_iff {n : Nat} {r : Run} {runs : List Run} :
    mem n (r :: runs) = true ↔
      r.has n = true ∨ (r.first ≤ n ∧ r.last < n ∧ mem n runs = true) := by
  rw [mem, has_iff]
  by_cases hfirst : n < r.first
  · rw [if_pos hfirst]
    have hnot : ¬ r.first ≤ n := by omega
    simp [hnot]
  · rw [if_neg hfirst]
    have hfirst' : r.first ≤ n := by omega
    by_cases hlast : n ≤ r.last
    · rw [if_pos hlast]
      have hnot : ¬ r.last < n := by omega
      simp [hfirst', hlast, hnot]
    · rw [if_neg hlast]
      have hlast' : r.last < n := by omega
      simp [hfirst', hlast, hlast']

theorem mem_singleton_iff {n : Nat} {r : Run} : mem n [r] = true ↔ r.has n = true := by
  rw [mem_cons_iff]
  simp [mem]

/-- The runs that do not end before `k`. -/
def since (k : Nat) (runs : List Run) : List Run := runs.dropWhile fun s => s.last.blt k

theorem mem_since {k n : Nat} (hk : k ≤ n) {runs : List Run} (h : mem n runs = true) :
    mem n (since k runs) = true := by
  induction runs with
  | nil => exact h
  | cons s runs ih =>
      rw [since, List.dropWhile_cons]
      split_ifs with hlast
      · have hlast' : s.last < k := Nat.blt_eq.mp hlast
        apply ih
        rcases mem_cons_iff.mp h with hs | ⟨-, -, hruns⟩
        · have := (has_iff.mp hs).2.1
          omega
        · exact hruns
      · exact h

/-- No run ends before it starts. -/
def proper (runs : List Run) : Bool := runs.all fun r => r.first.ble r.last

theorem mem_of_mem_since {k n : Nat} (hk : k ≤ n) {runs : List Run} (hproper : proper runs = true)
    (h : mem n (since k runs) = true) : mem n runs = true := by
  induction runs with
  | nil => exact h
  | cons s runs ih =>
      rw [proper, List.all_cons, Bool.and_eq_true, Nat.ble_eq] at hproper
      rw [since, List.dropWhile_cons] at h
      split_ifs at h with hlast
      · have hlast' : s.last < k := Nat.blt_eq.mp hlast
        have hruns := ih hproper.2 h
        exact mem_cons_iff.mpr (.inr ⟨by omega, by omega, hruns⟩)
      · exact h

theorem proper_since {k : Nat} {runs : List Run} (h : proper runs = true) :
    proper (since k runs) = true := by
  rw [proper, List.all_eq_true] at h ⊢
  intro r hr
  exact h r ((List.dropWhile_sublist _).mem hr)

/-! ## Tables without a common member -/

/-- The runs lie one behind the other, or go in steps of two with one on the even code points and
one on the odd. -/
def apart (r s : Run) : Bool :=
  s.last.blt r.first || r.last.blt s.first ||
    ((r.step.beq 2 || r.first.beq r.last) && (s.step.beq 2 || s.first.beq s.last) &&
      ((r.first + s.first) % 2).beq 1)

theorem not_has_of_apart {r s : Run} (h : r.apart s = true) {n : Nat} (hr : r.has n = true) :
    ¬ s.has n = true := by
  intro hs
  obtain ⟨hr₁, hr₂, hr₃⟩ := has_iff.mp hr
  obtain ⟨hs₁, hs₂, hs₃⟩ := has_iff.mp hs
  simp only [apart, Bool.or_eq_true, Bool.and_eq_true, Nat.blt_eq, Nat.beq_eq] at h
  rcases h with (h | h) | ⟨⟨hr₄, hs₄⟩, hodd⟩
  · omega
  · omega
  · have hr₅ : (n - r.first) % 2 = 0 := by
      rcases hr₄ with hstep | hone
      · rwa [hstep] at hr₃
      · omega
    have hs₅ : (n - s.first) % 2 = 0 := by
      rcases hs₄ with hstep | hone
      · rwa [hstep] at hs₃
      · omega
    omega

/-- No code point is in both of two ordered tables. -/
def disjoint : List Run → List Run → Bool
  | [], _ => true
  | r :: rs, ss =>
      ((since r.first ss).takeWhile fun s => s.first.ble r.last).all r.apart &&
        disjoint rs (since r.first ss)

theorem not_mem_of_apart {r : Run} {n : Nat} (hr : r.has n = true) {ss : List Run}
    (h : (ss.takeWhile fun s => s.first.ble r.last).all r.apart = true) : ¬ mem n ss = true := by
  induction ss with
  | nil => simp [mem]
  | cons s ss ih =>
      rw [mem_cons_iff]
      rw [List.takeWhile_cons] at h
      split_ifs at h with hfirst
      · rw [List.all_cons, Bool.and_eq_true] at h
        rintro (hs | ⟨-, -, hss⟩)
        · exact not_has_of_apart h.1 hr hs
        · exact ih h.2 hss
      · -- The search stops at a run that starts behind the code point.
        have hfirst' : r.last < s.first := by simpa using hfirst
        have hlast := (has_iff.mp hr).2.1
        rintro (hs | ⟨hle, -⟩)
        · have := (has_iff.mp hs).1
          omega
        · omega

theorem mem_eq_false_of_disjoint {rs ss : List Run} (h : disjoint rs ss = true) {n : Nat}
    (hn : mem n rs = true) : mem n ss = false := by
  rw [← Bool.not_eq_true]
  induction rs generalizing ss with
  | nil => cases hn
  | cons r rs ih =>
      rw [disjoint, Bool.and_eq_true] at h
      intro hss
      rcases mem_cons_iff.mp hn with hr | ⟨hfirst, -, hrs⟩
      · exact not_mem_of_apart hr h.1 (mem_since (has_iff.mp hr).1 hss)
      · exact ih h.2 hrs (mem_since hfirst hss)

/-! ## Tables inside another -/

/-- All of the second run is in the first: its start is, and it has one code point or goes in steps
that the first goes in too. -/
def covers (s r : Run) : Bool :=
  s.first.ble r.first && r.last.ble s.last && ((r.first - s.first) % s.step).beq 0 &&
    (r.first.beq r.last || (r.step % s.step).beq 0)

theorem has_of_covers {s r : Run} (h : s.covers r = true) {n : Nat} (hr : r.has n = true) :
    s.has n = true := by
  simp only [covers, Bool.and_eq_true, Bool.or_eq_true, Nat.ble_eq, Nat.beq_eq] at h
  obtain ⟨⟨⟨hfirst, hlast⟩, hoffset⟩, hstep⟩ := h
  obtain ⟨hr₁, hr₂, hr₃⟩ := has_iff.mp hr
  refine has_iff.mpr ⟨by omega, by omega, ?_⟩
  have hinside : s.step ∣ n - r.first := by
    rcases hstep with hone | hstep
    · have hn : n - r.first = 0 := by omega
      rw [hn]
      exact Nat.dvd_zero _
    · exact Nat.dvd_trans (Nat.dvd_of_mod_eq_zero hstep) (Nat.dvd_of_mod_eq_zero hr₃)
  have hsum : n - s.first = (n - r.first) + (r.first - s.first) := by omega
  rw [hsum]
  exact Nat.mod_eq_zero_of_dvd (Nat.dvd_add hinside (Nat.dvd_of_mod_eq_zero hoffset))

/-- The part of a run up to `k`. -/
def upTo (r : Run) (k : Nat) : Run := { r with last := k }

/-- The part of a run behind `k`, for a `k` that is not below the run. -/
def after (r : Run) (k : Nat) : Run :=
  { r with first := r.first + ((k - r.first) / r.step + 1) * r.step }

theorem after_has {r : Run} {k n : Nat} (hk : r.first ≤ k) (hr : r.has n = true) (hn : k < n) :
    (r.after k).has n = true := by
  obtain ⟨hfirst, hlast, hstep⟩ := has_iff.mp hr
  obtain ⟨q, hq⟩ := Nat.dvd_of_mod_eq_zero hstep
  have hlt : (k - r.first) / r.step < q := Nat.div_lt_of_lt_mul (by omega)
  have hle : ((k - r.first) / r.step + 1) * r.step ≤ r.step * q := by
    rw [Nat.mul_comm]
    exact Nat.mul_le_mul_left _ hlt
  refine has_iff.mpr ⟨?_, hlast, ?_⟩
  · show r.first + ((k - r.first) / r.step + 1) * r.step ≤ n
    omega
  · show (n - (r.first + ((k - r.first) / r.step + 1) * r.step)) % r.step = 0
    rw [← Nat.sub_sub, hq, Nat.mul_comm (_ + 1), ← Nat.mul_sub]
    exact Nat.mul_mod_right _ _

/-- Some runs of an ordered table make up all of the run. -/
def inRuns (r : Run) : List Run → Bool
  | [] => false
  | s :: ss =>
      bif s.last.blt r.first then r.inRuns ss
      else s.covers r || (s.covers (r.upTo s.last) && (r.after s.last).inRuns ss)

theorem mem_of_inRuns {r : Run} {ss : List Run} (h : r.inRuns ss = true)
    (hproper : proper ss = true) {n : Nat} (hr : r.has n = true) : mem n ss = true := by
  induction ss generalizing r with
  | nil => cases h
  | cons s ss ih =>
      rw [proper, List.all_cons, Bool.and_eq_true, Nat.ble_eq] at hproper
      have hfirst := (has_iff.mp hr).1
      rw [inRuns, Bool.cond_eq_ite] at h
      split_ifs at h with hbelow
      · have hlast : s.last < r.first := Nat.blt_eq.mp hbelow
        exact mem_cons_iff.mpr (.inr ⟨by omega, by omega, ih h hproper.2 hr⟩)
      · rw [Bool.or_eq_true, Bool.and_eq_true] at h
        rcases h with hcovers | ⟨hcovers, hrest⟩
        · exact mem_cons_iff.mpr (.inl (has_of_covers hcovers hr))
        · by_cases hn : n ≤ s.last
          · have hpart : (r.upTo s.last).has n = true :=
              has_iff.mpr ⟨hfirst, hn, (has_iff.mp hr).2.2⟩
            exact mem_cons_iff.mpr (.inl (has_of_covers hcovers hpart))
          · have hlast : r.first ≤ s.last := by simpa using hbelow
            have hmem := ih hrest hproper.2 (after_has hlast hr (by omega))
            exact mem_cons_iff.mpr (.inr ⟨by omega, by omega, hmem⟩)

/-- Each code point of an ordered table is in another. -/
def within : List Run → List Run → Bool
  | [], _ => true
  | r :: rs, ss => r.inRuns (since r.first ss) && within rs (since r.first ss)

theorem mem_of_within {rs ss : List Run} (h : within rs ss = true) (hproper : proper ss = true)
    {n : Nat} (hn : mem n rs = true) : mem n ss = true := by
  induction rs generalizing ss with
  | nil => cases hn
  | cons r rs ih =>
      rw [within, Bool.and_eq_true] at h
      have hsince : proper (since r.first ss) = true := proper_since hproper
      rcases mem_cons_iff.mp hn with hr | ⟨hfirst, -, hrs⟩
      · exact mem_of_mem_since (has_iff.mp hr).1 hproper (mem_of_inRuns h.1 hsince hr)
      · exact mem_of_mem_since hfirst hproper (ih h.2 hsince hrs)

end Run

/-! ## Maps -/

namespace MapRun

theorem apply_cases (n : Nat) (runs : List MapRun) :
    apply n runs = n ∨
      ∃ r ∈ runs, r.toRun.has n = true ∧ apply n runs = r.image + (n - r.first) := by
  induction runs with
  | nil => exact .inl rfl
  | cons r runs ih =>
      rw [apply]
      split_ifs with hfirst hlast hstep
      · exact .inl rfl
      · refine .inr ⟨r, by simp, Run.has_iff.mpr ⟨by omega, hlast, ?_⟩, rfl⟩
        simpa using hstep
      · exact .inl rfl
      · rcases ih with hself | ⟨s, hs, hrest⟩
        · exact .inl hself
        · exact .inr ⟨s, by simp [hs], hrest⟩

/-- The code points that a map changes. -/
def domain (runs : List MapRun) : List Run := runs.map MapRun.toRun

theorem apply_eq_self {n : Nat} {runs : List MapRun} (h : Run.mem n (domain runs) = false) :
    apply n runs = n := by
  induction runs with
  | nil => rfl
  | cons r runs ih =>
      rw [domain, List.map_cons, Run.mem] at h
      rw [apply]
      split_ifs at h ⊢ with hfirst hlast hstep
      · rfl
      · rw [hstep] at h
        cases h
      · rfl
      · exact ih h

/-- What the code points of a run are mapped to. -/
def imageRun (r : MapRun) : Run := ⟨r.image, r.image + (r.last - r.first), r.step⟩

theorem imageRun_has {r : MapRun} {n : Nat} (h : r.toRun.has n = true) :
    r.imageRun.has (r.image + (n - r.first)) = true := by
  obtain ⟨hfirst, hlast, hstep⟩ := Run.has_iff.mp h
  refine Run.has_iff.mpr ⟨Nat.le_add_right _ _, ?_, ?_⟩
  · show r.image + (n - r.first) ≤ r.image + (r.last - r.first)
    omega
  · show (r.image + (n - r.first) - r.image) % r.step = 0
    rwa [Nat.add_sub_cancel_left]

/-- The code point of a run that is mapped to `t`. -/
def preimage? (t : Nat) (r : MapRun) : Option Nat :=
  bif r.image.ble t && t.ble (r.image + (r.last - r.first)) && ((t - r.image) % r.step).beq 0 then
    some (r.first + (t - r.image))
  else none

/-- What is mapped to `t` is `t` itself or is found in some run. -/
theorem eq_or_mem_preimages {n t : Nat} {runs : List MapRun} (h : apply n runs = t) :
    n = t ∨ n ∈ runs.filterMap (preimage? t) := by
  rcases apply_cases n runs with hself | ⟨r, hr, hhas, himage⟩
  · exact .inl (hself.symm.trans h)
  · right
    obtain ⟨hfirst, hlast, hstep⟩ := Run.has_iff.mp hhas
    obtain rfl : t = r.image + (n - r.first) := h.symm.trans himage
    have hsub : r.image + (n - r.first) - r.image = n - r.first :=
      Nat.add_sub_cancel_left _ _
    refine List.mem_filterMap.mpr ⟨r, hr, ?_⟩
    have hbounds : r.image ≤ r.image + (n - r.first) ∧
        r.image + (n - r.first) ≤ r.image + (r.last - r.first) := by omega
    simp only [preimage?, hsub, hstep, Nat.ble_eq.mpr hbounds.1, Nat.ble_eq.mpr hbounds.2,
      Bool.and_self, Nat.beq_refl, cond_true]
    congr 1
    omega

/-- The map takes each run of code points that it changes into the table, or `p` excuses it. -/
def imagesIn (table : List Run) (p : MapRun → Bool) (runs : List MapRun) : Bool :=
  runs.all fun r => r.imageRun.inRuns table || p r

theorem of_imagesIn {table : List Run} {p : MapRun → Bool} {runs : List MapRun}
    (h : imagesIn table p runs = true) (hproper : Run.proper table = true) (n : Nat) :
    apply n runs = n ∨ Run.mem (apply n runs) table = true ∨
      ∃ r : MapRun, r.toRun.has n = true ∧ r.imageRun.has (apply n runs) = true ∧ p r = true := by
  rcases apply_cases n runs with hself | ⟨r, hr, hhas, himage⟩
  · exact .inl hself
  · refine .inr ?_
    have hrun : r.imageRun.has (apply n runs) = true := himage ▸ imageRun_has hhas
    have hall := List.all_eq_true.mp h r hr
    rw [Bool.or_eq_true] at hall
    rcases hall with hin | hexcused
    · exact .inl (Run.mem_of_inRuns hin hproper hrun)
    · exact .inr ⟨r, hhas, hrun, hexcused⟩

end MapRun

namespace Text

/-! ## The tables -/

/-- No code point of a run is a surrogate or too large for a character. -/
def isScalarRun (r : Run) : Bool :=
  r.last.blt 0xD800 || (Nat.blt 0xDFFF r.first && r.last.blt 0x110000)

theorem isValidChar_of_mem {n : Nat} {runs : List Run} (h : runs.all isScalarRun = true)
    (hn : Run.mem n runs = true) : n.isValidChar := by
  induction runs with
  | nil => cases hn
  | cons r runs ih =>
      rw [List.all_cons, Bool.and_eq_true] at h
      rcases Run.mem_cons_iff.mp hn with hr | ⟨-, -, hruns⟩
      · obtain ⟨hfirst, hlast, -⟩ := Run.has_iff.mp hr
        have hscalar := h.1
        simp only [isScalarRun, Bool.or_eq_true, Bool.and_eq_true, Nat.blt_eq] at hscalar
        rcases hscalar with hlow | ⟨hhigh, hmax⟩
        · exact .inl (by omega)
        · exact .inr ⟨by omega, by omega⟩
      · exact ih h.2 hruns

/-- Tables of characters that fit together. -/
structure Tables where
  letter : List Run
  digit : List Run
  blank : List Run
  upper : List Run
  lower : List Run
  toUpper : List MapRun
  toLower : List MapRun
  letter_digit : Run.disjoint letter digit = true
  letter_blank : Run.disjoint letter blank = true
  digit_blank : Run.disjoint digit blank = true
  upper_lower : Run.disjoint upper lower = true
  upper_letter : Run.within upper letter = true
  lower_letter : Run.within lower letter = true
  proper_letter : Run.proper letter = true
  proper_upper : Run.proper upper = true
  proper_lower : Run.proper lower = true
  letter_scalar : letter.all isScalarRun = true
  /-- A small letter has no lower-case counterpart but itself. -/
  lower_fixed : Run.disjoint lower (MapRun.domain toLower) = true
  /-- Nor has a digit. -/
  digit_fixed : Run.disjoint digit (MapRun.domain toLower) = true
  /-- A capital has no upper-case counterpart but itself. -/
  upper_fixed : Run.disjoint upper (MapRun.domain toUpper) = true
  /-- The lower-case counterpart of a letter is a small letter. -/
  lower_images : MapRun.imagesIn lower (fun r => Run.disjoint [r.toRun] letter) toLower = true
  /-- The upper-case counterpart of a letter is a capital or, where there is only a letter in title
  case, one that is its own counterpart. -/
  upper_images : MapRun.imagesIn upper
    (fun r => Run.disjoint [r.toRun] letter ||
      (r.imageRun.inRuns letter && Run.disjoint [r.imageRun] (MapRun.domain toUpper)))
    toUpper = true

namespace Tables

variable (t : Tables) {n : Nat}

theorem letter_of_upper (h : Run.mem n t.upper = true) : Run.mem n t.letter = true :=
  Run.mem_of_within t.upper_letter t.proper_letter h

theorem letter_of_lower (h : Run.mem n t.lower = true) : Run.mem n t.letter = true :=
  Run.mem_of_within t.lower_letter t.proper_letter h

theorem toLower_cases (h : Run.mem n t.letter = true) :
    MapRun.apply n t.toLower = n ∨ Run.mem (MapRun.apply n t.toLower) t.lower = true := by
  rcases MapRun.of_imagesIn t.lower_images t.proper_lower n with
    hself | hlower | ⟨r, hr, -, hexcused⟩
  · exact .inl hself
  · exact .inr hlower
  · rw [Run.mem_eq_false_of_disjoint hexcused (Run.mem_singleton_iff.mpr hr)] at h
    cases h

theorem toUpper_of_upper (h : Run.mem n t.upper = true) : MapRun.apply n t.toUpper = n :=
  MapRun.apply_eq_self (Run.mem_eq_false_of_disjoint t.upper_fixed h)

theorem letter_toUpper (h : Run.mem n t.letter = true) :
    Run.mem (MapRun.apply n t.toUpper) t.letter = true ∧
      MapRun.apply (MapRun.apply n t.toUpper) t.toUpper = MapRun.apply n t.toUpper := by
  rcases MapRun.of_imagesIn t.upper_images t.proper_upper n with
    hself | hupper | ⟨r, hr, himage, hexcused⟩
  · rw [hself]
    exact ⟨h, hself⟩
  · exact ⟨t.letter_of_upper hupper, t.toUpper_of_upper hupper⟩
  · rw [Bool.or_eq_true, Bool.and_eq_true] at hexcused
    rcases hexcused with hother | ⟨hletter, hfixed⟩
    · rw [Run.mem_eq_false_of_disjoint hother (Run.mem_singleton_iff.mpr hr)] at h
      cases h
    · have hself := Run.mem_eq_false_of_disjoint hfixed (Run.mem_singleton_iff.mpr himage)
      exact ⟨Run.mem_of_inRuns hletter t.proper_letter himage, MapRun.apply_eq_self hself⟩

/-- A letter of the tables is the number of a character. -/
theorem toNat_ofNat_of_letter (h : Run.mem n t.letter = true) : (Char.ofNat n).toNat = n := by
  have hvalid : n.isValidChar := isValidChar_of_mem t.letter_scalar h
  rw [Char.ofNat, dif_pos hvalid]
  rfl

end Tables

/-- The tables of this library.  Each fact is settled by one sweep. -/
def tables : Tables where
  letter := letterRuns
  digit := digitRuns
  blank := blankRuns
  upper := upperRuns
  lower := lowerRuns
  toUpper := upperMap
  toLower := lowerMap
  letter_digit := by decide +kernel
  letter_blank := by decide +kernel
  digit_blank := by decide +kernel
  upper_lower := by decide +kernel
  upper_letter := by decide +kernel
  lower_letter := by decide +kernel
  proper_letter := by decide +kernel
  proper_upper := by decide +kernel
  proper_lower := by decide +kernel
  letter_scalar := by decide +kernel
  lower_fixed := by decide +kernel
  digit_fixed := by decide +kernel
  upper_fixed := by decide +kernel
  lower_images := by decide +kernel
  upper_images := by decide +kernel

/-! ## Characters -/

section

variable {c : Char}

theorem isDigit_of_isLetter (h : isLetter c = true) : isDigit c = false :=
  Run.mem_eq_false_of_disjoint tables.letter_digit h

theorem isBlank_of_isLetter (h : isLetter c = true) : isBlank c = false :=
  Run.mem_eq_false_of_disjoint tables.letter_blank h

theorem isBlank_of_isDigit (h : isDigit c = true) : isBlank c = false :=
  Run.mem_eq_false_of_disjoint tables.digit_blank h

theorem isLower_of_isUpper (h : isUpper c = true) : isLower c = false :=
  Run.mem_eq_false_of_disjoint tables.upper_lower h

theorem isLetter_of_isLower (h : isLower c = true) : isLetter c = true :=
  tables.letter_of_lower h

theorem isDigit_of_isUpper (h : isUpper c = true) : isDigit c = false :=
  isDigit_of_isLetter (tables.letter_of_upper h)

theorem isDigit_of_isLower (h : isLower c = true) : isDigit c = false :=
  isDigit_of_isLetter (isLetter_of_isLower h)

theorem toLower_eq_self {runs : List Run}
    (hdisjoint : Run.disjoint runs (MapRun.domain lowerMap) = true)
    (h : Run.mem c.toNat runs = true) : toLower c = c := by
  rw [toLower, MapRun.apply_eq_self (Run.mem_eq_false_of_disjoint hdisjoint h), Char.ofNat_toNat]

theorem toLower_of_isLower (h : isLower c = true) : toLower c = c :=
  toLower_eq_self tables.lower_fixed h

theorem toLower_of_isDigit (h : isDigit c = true) : toLower c = c :=
  toLower_eq_self tables.digit_fixed h

/-- A letter without a small letter is its own counterpart. -/
theorem toLower_cases (h : isLetter c = true) : toLower c = c ∨ isLower (toLower c) = true := by
  have hcases : MapRun.apply c.toNat lowerMap = c.toNat ∨
      Run.mem (MapRun.apply c.toNat lowerMap) lowerRuns = true := tables.toLower_cases h
  rcases hcases with hself | hlower
  · left
    rw [toLower, hself, Char.ofNat_toNat]
  · right
    have hnat : (toLower c).toNat = MapRun.apply c.toNat lowerMap :=
      tables.toNat_ofNat_of_letter (tables.letter_of_lower hlower)
    rwa [isLower, hnat]

theorem toLower_toLower (h : isLetter c = true) : toLower (toLower c) = toLower c := by
  rcases toLower_cases h with hself | hlower
  · rw [hself, hself]
  · exact toLower_of_isLower hlower

theorem isLetter_toLower (h : isLetter c = true) : isLetter (toLower c) = true := by
  rcases toLower_cases h with hself | hlower
  · rwa [hself]
  · exact isLetter_of_isLower hlower

/-- The characters that a map takes to a given one can be read off its runs. -/
theorem mem_of_apply_eq {d : Char} (hd : d ≠ Char.ofNat 0) {runs : List MapRun} (cs : List Char)
    (hcs : d.toNat :: runs.filterMap (MapRun.preimage? d.toNat) = cs.map Char.toNat)
    (h : Char.ofNat (MapRun.apply c.toNat runs) = d) : c ∈ cs := by
  have happly : MapRun.apply c.toNat runs = d.toNat := by
    by_cases hvalid : (MapRun.apply c.toNat runs).isValidChar
    · rw [← h, Char.ofNat, dif_pos hvalid]
      rfl
    · rw [Char.ofNat, dif_neg hvalid] at h
      exact absurd h.symm hd
  have hmem : c.toNat ∈ cs.map Char.toNat :=
    hcs ▸ List.mem_cons.mpr (MapRun.eq_or_mem_preimages happly)
  obtain ⟨e, he, heq⟩ := List.mem_map.mp hmem
  rwa [← Char.toNat_inj.mp heq]

theorem toNat_toUpper (h : isLetter c = true) :
    (toUpper c).toNat = MapRun.apply c.toNat upperMap :=
  tables.toNat_ofNat_of_letter (tables.letter_toUpper h).1

theorem isLetter_toUpper (h : isLetter c = true) : isLetter (toUpper c) = true := by
  rw [isLetter, toNat_toUpper h]
  exact (tables.letter_toUpper h).1

theorem toUpper_toUpper (h : isLetter c = true) : toUpper (toUpper c) = toUpper c := by
  have htwice : MapRun.apply (MapRun.apply c.toNat upperMap) upperMap =
      MapRun.apply c.toNat upperMap := (tables.letter_toUpper h).2
  rw [toUpper, toNat_toUpper h, htwice]
  rfl

end

end Text

end RpcBindings
