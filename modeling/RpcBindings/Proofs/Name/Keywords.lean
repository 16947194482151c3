import Mathlib.Data.Bool.AllAny
import RpcBindings.Name.Keyword
import RpcBindings.Proofs.Name.TypeGrammar

/-!
# Names that are keywords (SPEC §4.1)

The identifier of a module, function or argument is no keyword, since keywords are escaped in it.
The name of a type is not escaped.  Type style leaves a single keyword as it is, `Self`, and what it
writes it leaves as it is, so `Self` is the one keyword that it can write.

Which names lead there can be told by going along the four letters.  Underscores may stand around the
first letter and behind the last, but behind the second and the third one would ask for a capital; a
capital may stand for a small letter where the letter before it lowers it.
-/

set_option autoImplicit false

namespace RpcBindings.Name

open Text (isUpper isDigit toUpper toLower)

/-- The name is one of the keywords of Rust. -/
def IsKeyword (name : Bytes) : Prop := name ∈ reservedWords ∨ name ∈ pathKeywords

instance (name : Bytes) : Decidable (IsKeyword name) := inferInstanceAs (Decidable (_ ∨ _))

theorem isKeyword_iff_mem {name : Bytes} : IsKeyword name ↔ name ∈ reservedWords ++ pathKeywords :=
  List.mem_append.symm

/-! ## Identifiers -/

/-- No keyword looks like an escaped one. -/
theorem IsKeyword.unescaped {name : Bytes} (h : IsKeyword name) : Unescaped name := by
  have hwords : ∀ word ∈ reservedWords ++ pathKeywords,
      word.getLast? ≠ some 0x5F ∧ (0x23 : UInt8) ∉ word :=
    List.all_iff_forall_prop.mp (by decide +kernel)
  obtain ⟨hlast, hhash⟩ := hwords name (isKeyword_iff_mem.mp h)
  exact ⟨hlast, hhash⟩

theorem not_isKeyword_escapeKeyword (name : Bytes) : ¬ IsKeyword (escapeKeyword name) := by
  intro h
  have hunescaped := h.unescaped
  unfold escapeKeyword at h hunescaped
  split_ifs at h hunescaped with hpath hreserved
  · exact hunescaped.last (getLast?_append_line name)
  · exact hunescaped.hash (hash_mem_raw name)
  · exact h.elim hreserved hpath

theorem not_isKeyword_memberIdent (name : Bytes) : ¬ IsKeyword (memberIdent name) := by
  unfold memberIdent
  split
  · decide
  · exact not_isKeyword_escapeKeyword _

/-! ## Type names -/

/-- The keyword that is in type style. -/
def selfName : Bytes := "Self"

/-- Type style can write one keyword only, for it leaves what it writes unchanged. -/
theorem isKeyword_typeStyle_iff {name : Bytes} :
    IsKeyword (typeStyle name) ↔ typeStyle name = selfName := by
  have hwords : ∀ word ∈ reservedWords ++ pathKeywords, typeStyle word = word → word = selfName :=
    List.all_iff_forall_prop.mp (by decide +kernel)
  constructor
  · intro h
    exact hwords _ (isKeyword_iff_mem.mp h) (typeStyle_typeStyle name)
  · intro h
    rw [h]
    decide

/-! ## Letters and their counterparts -/

/-- A small letter and a capital that are each other's counterpart and nobody else's. -/
structure LetterPair (small capital : Char) : Prop where
  isUpper_small : isUpper small = false
  isUpper_capital : isUpper capital = true
  toUpper_small : toUpper small = capital
  toLower_capital : toLower capital = small
  of_toUpper : ∀ c, toUpper c = capital → c = small ∨ c = capital
  of_toLower : ∀ c, toLower c = small → c = small ∨ c = capital
  toUpper_ne : ∀ c, toUpper c ≠ small
  toLower_ne : ∀ c, toLower c ≠ capital

/-- The letters that the tables pair with each other. -/
theorem letterPair_of_preimages {small capital : Char}
    (hletters : isUpper small = false ∧ isUpper capital = true ∧ toUpper small = capital ∧
      toLower capital = small)
    (hupper : Text.upperMap.filterMap (MapRun.preimage? capital.toNat) = [small.toNat] ∧
      Text.upperMap.filterMap (MapRun.preimage? small.toNat) = [])
    (hlower : Text.lowerMap.filterMap (MapRun.preimage? small.toNat) = [capital.toNat] ∧
      Text.lowerMap.filterMap (MapRun.preimage? capital.toNat) = []) :
    LetterPair small capital := by
  obtain ⟨hsmall, hcapital, hupperSmall, hlowerCapital⟩ := hletters
  have hne : small ≠ capital := by
    rintro rfl
    rw [hsmall] at hcapital
    cases hcapital
  have hzero : isUpper (Char.ofNat 0) = false ∧ toUpper (Char.ofNat 0) = Char.ofNat 0 := by decide
  have hcapital₀ : capital ≠ Char.ofNat 0 := by
    rintro rfl
    rw [hzero.1] at hcapital
    cases hcapital
  have hsmall₀ : small ≠ Char.ofNat 0 := by
    rintro rfl
    exact hcapital₀ (hupperSmall.symm.trans hzero.2)
  refine ⟨hsmall, hcapital, hupperSmall, hlowerCapital, ?_, ?_, ?_, ?_⟩
  · intro c h
    have hmem := Text.mem_of_apply_eq hcapital₀ [capital, small] (by rw [hupper.1]; rfl) h
    simpa [or_comm] using hmem
  · intro c h
    have hmem := Text.mem_of_apply_eq hsmall₀ [small, capital] (by rw [hlower.1]; rfl) h
    simpa using hmem
  · intro c h
    obtain rfl : c = small := by
      simpa using Text.mem_of_apply_eq hsmall₀ [small] (by rw [hupper.2]; rfl) h
    exact hne (h.symm.trans hupperSmall)
  · intro c h
    obtain rfl : c = capital := by
      simpa using Text.mem_of_apply_eq hcapital₀ [capital] (by rw [hlower.2]; rfl) h
    exact hne (hlowerCapital.symm.trans h)

theorem letterPair_e : LetterPair 'e' 'E' :=
  letterPair_of_preimages (by decide +kernel) (by decide +kernel) (by decide +kernel)

theorem letterPair_l : LetterPair 'l' 'L' :=
  letterPair_of_preimages (by decide +kernel) (by decide +kernel) (by decide +kernel)

theorem letterPair_f : LetterPair 'f' 'F' :=
  letterPair_of_preimages (by decide +kernel) (by decide +kernel) (by decide +kernel)

/-- Three characters are raised to `S`, the long one of old prints among them. -/
theorem mem_of_toUpper_eq_S {c : Char} (h : toUpper c = 'S') : c ∈ ['S', 's', 'ſ'] :=
  Text.mem_of_apply_eq (by decide) _ (by decide +kernel) h

section

variable {small capital : Char} (h : LetterPair small capital) {raise prevCap : Bool} {c : Char}
include h

/-- Behind a capital that was written, a small letter is written for itself and for its capital. -/
theorem LetterPair.camelChar_behind (hc : camelChar raise prevCap true c = small) :
    c = small ∨ c = capital := by
  have hcollapsed : ∀ d, (if isUpper d then toLower d else d) = small → d = small ∨ d = capital := by
    intro d hd
    split_ifs at hd
    · exact h.of_toLower d hd
    · exact .inl hd
  unfold camelChar at hc
  simp only [Bool.true_and] at hc
  have hcased := hcollapsed _ hc
  split_ifs at hcased
  · exact h.of_toUpper c (hcased.resolve_left (h.toUpper_ne c))
  · exact h.of_toLower c (hcased.resolve_right (h.toLower_ne c))
  · exact hcased

/-- Elsewhere it is written where no capital is asked for, and for its capital only where that
follows another. -/
theorem LetterPair.camelChar_elsewhere (hc : camelChar raise prevCap false c = small) :
    raise = false ∧ (c = small ∨ c = capital ∧ prevCap = true) := by
  unfold camelChar at hc
  simp only [Bool.false_and, Bool.false_eq_true, if_false] at hc
  cases raise with
  | true => exact absurd hc (h.toUpper_ne c)
  | false =>
      refine ⟨rfl, ?_⟩
      simp only [Bool.false_eq_true, if_false] at hc
      split_ifs at hc with hcap
      · rw [Bool.and_eq_true] at hcap
        exact (h.of_toLower c hc).imp id fun hcapital => ⟨hcapital, hcap.1⟩
      · exact .inl hc

end

/-! ## Reading along a name -/

section

variable {raise prevCap prevUpper : Bool} {cs : List Char}

/-- Underscores write nothing, ask for a capital, and separate what was read. -/
theorem camelFrom_lines (n : Nat) :
    camelFrom raise prevCap prevUpper (List.replicate n '_' ++ cs) =
      camelFrom (raise || n != 0) (prevCap && n == 0) prevUpper cs := by
  induction n generalizing raise prevCap with
  | zero => simp
  | succ n ih =>
      rw [List.replicate_succ, List.cons_append, camelFrom, if_pos rfl, ih]
      simp

theorem camelFrom_cons {c : Char} (hline : c ≠ '_') (hdigit : isDigit c = false) :
    camelFrom raise prevCap prevUpper (c :: cs) =
      camelChar raise prevCap prevUpper c ::
        camelFrom false (isUpper c) (isUpper (camelChar raise prevCap prevUpper c)) cs := by
  rw [camelFrom, if_neg hline, if_neg (by simp [hdigit])]

theorem exists_lines (cs : List Char) :
    ∃ n rest, cs = List.replicate n '_' ++ rest ∧ ∀ c ∈ rest.head?, c ≠ '_' := by
  induction cs with
  | nil => exact ⟨0, [], rfl, by simp⟩
  | cons c cs ih =>
      by_cases hline : c = '_'
      · obtain ⟨n, rest, rfl, hrest⟩ := ih
        exact ⟨n + 1, rest, by rw [hline, List.replicate_succ]; rfl, hrest⟩
      · exact ⟨0, c :: cs, rfl, by simpa using hline⟩

/-- A character that is no digit is written for one that underscores may stand before. -/
theorem exists_of_camelFrom_eq_cons {d : Char} {ds : List Char} (hd : isDigit d = false)
    (h : camelFrom raise prevCap prevUpper cs = d :: ds) :
    ∃ n c rest, cs = List.replicate n '_' ++ c :: rest ∧
      camelChar (raise || n != 0) (prevCap && n == 0) prevUpper c = d ∧
      camelFrom false (isUpper c) (isUpper d) rest = ds := by
  obtain ⟨n, rest, rfl, hrest⟩ := exists_lines cs
  rw [camelFrom_lines] at h
  cases rest with
  | nil => cases h
  | cons c rest =>
      have hline : c ≠ '_' := hrest c rfl
      cases hdigit : isDigit c with
      | true =>
          rw [camelFrom, if_neg hline, if_pos hdigit] at h
          rw [(List.cons.inj h).1, hd] at hdigit
          cases hdigit
      | false =>
          rw [camelFrom_cons hline hdigit] at h
          obtain ⟨hc, hds⟩ := List.cons.inj h
          exact ⟨n, c, rest, rfl, hc, hc ▸ hds⟩

theorem exists_of_camelFrom_eq_nil (h : camelFrom raise prevCap prevUpper cs = []) :
    ∃ n, cs = List.replicate n '_' := by
  obtain ⟨n, rest, rfl, hrest⟩ := exists_lines cs
  rw [camelFrom_lines] at h
  cases rest with
  | nil => exact ⟨n, List.append_nil _⟩
  | cons c rest =>
      rw [camelFrom, if_neg (hrest c rfl)] at h
      split_ifs at h

end

/-! ## Spellings of `Self` -/

/-- The first letter. -/
def selfHeads : List Char := ['S', 's', 'ſ']

/-- The other letters: capitals come first among them, and behind one of them another is lowered. -/
def selfTails : List (List Char) :=
  [['e', 'l', 'f'], ['E', 'l', 'f'], ['E', 'L', 'f'], ['E', 'L', 'F']]

/-- The characters spell `Self`, with underscores around the first letter and behind the last. -/
def SpellsSelf (cs : List Char) : Prop :=
  ∃ a b n, ∃ head ∈ selfHeads, ∃ tail ∈ selfTails,
    cs = List.replicate a '_' ++ head :: (List.replicate b '_' ++ (tail ++ List.replicate n '_'))

theorem spellsSelf_of_camel {cs : List Char} (h : camel cs = ['S', 'e', 'l', 'f']) :
    SpellsSelf cs := by
  obtain ⟨a, c₁, cs, rfl, h₁, h⟩ := exists_of_camelFrom_eq_cons (by decide) h
  obtain ⟨b, c₂, cs, rfl, h₂, h⟩ := exists_of_camelFrom_eq_cons (by decide) h
  obtain ⟨k, c₃, cs, rfl, h₃, h⟩ := exists_of_camelFrom_eq_cons (by decide) h
  obtain ⟨m, c₄, cs, rfl, h₄, h⟩ := exists_of_camelFrom_eq_cons (by decide) h
  obtain ⟨n, rfl⟩ := exists_of_camelFrom_eq_nil h
  have hhead : c₁ ∈ selfHeads := mem_of_toUpper_eq_S (by simpa [camelChar] using h₁)
  rw [show isUpper 'S' = true by decide] at h₂
  rw [letterPair_e.isUpper_small] at h₃
  rw [letterPair_l.isUpper_small] at h₄
  have hsecond := letterPair_e.camelChar_behind h₂
  obtain ⟨hk, hthird⟩ := letterPair_l.camelChar_elsewhere h₃
  obtain ⟨hm, hfourth⟩ := letterPair_f.camelChar_elsewhere h₄
  obtain rfl : k = 0 := by simpa using hk
  obtain rfl : m = 0 := by simpa using hm
  refine ⟨a, b, n, c₁, hhead, [c₂, c₃, c₄], ?_, rfl⟩
  have hl : isUpper 'l' = false := letterPair_l.isUpper_small
  have he : isUpper 'e' = false := letterPair_e.isUpper_small
  rcases hsecond with rfl | rfl <;> rcases hthird with rfl | ⟨rfl, hthird⟩ <;>
    rcases hfourth with rfl | ⟨rfl, hfourth⟩ <;> simp_all [selfTails]

theorem camelFrom_selfTail {raise prevCap : Bool} {tail : List Char} (htail : tail ∈ selfTails)
    (n : Nat) : camelFrom raise prevCap true (tail ++ List.replicate n '_') = ['e', 'l', 'f'] := by
  have hlines : ∀ raise prevCap prevUpper,
      camelFrom raise prevCap prevUpper (List.replicate n '_') = [] := by
    intro raise prevCap prevUpper
    rw [← List.append_nil (List.replicate n '_'), camelFrom_lines, camelFrom]
  simp only [selfTails, List.mem_cons, List.not_mem_nil, or_false] at htail
  rcases htail with rfl | rfl | rfl | rfl <;> cases raise <;> cases prevCap <;>
    exact congrArg (fun ds => 'e' :: 'l' :: 'f' :: ds) (hlines _ _ _)

theorem camel_of_spellsSelf {cs : List Char} (h : SpellsSelf cs) :
    camel cs = ['S', 'e', 'l', 'f'] := by
  obtain ⟨a, b, n, head, hhead, tail, htail, rfl⟩ := h
  have hheads : ∀ c ∈ selfHeads, c ≠ '_' ∧ isDigit c = false ∧ camelChar true false false c = 'S' :=
    List.all_iff_forall_prop.mp (by decide)
  obtain ⟨hline, hdigit, hchar⟩ := hheads head hhead
  rw [camel, camelFrom_lines, Bool.true_or, Bool.false_and, camelFrom_cons hline hdigit, hchar,
    camelFrom_lines, show isUpper 'S' = true by decide, camelFrom_selfTail htail]

instance : DecidablePred SpellsSelf := fun cs =>
  decidable_of_iff (camel cs = ['S', 'e', 'l', 'f']) ⟨spellsSelf_of_camel, camel_of_spellsSelf⟩

/-- The names that become `Self` are its spellings, whatever separates their words. -/
theorem typeStyle_eq_selfName_iff {name : Bytes} :
    typeStyle name = selfName ↔ SpellsSelf (separateRunes (Utf8.runes name)) := by
  have hencode : selfName = Utf8.encode ['S', 'e', 'l', 'f'] := by decide
  rw [typeStyle_eq_encode, hencode]
  constructor
  · intro h
    exact spellsSelf_of_camel (Utf8.encode_inj.mp h)
  · intro h
    rw [camel_of_spellsSelf h]

example : SpellsSelf "__s_ELf_".toList ∧ ¬ SpellsSelf "se_lf".toList ∧ ¬ SpellsSelf "seLf".toList := by
  decide

end RpcBindings.Name
