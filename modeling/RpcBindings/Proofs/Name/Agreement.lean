import RpcBindings.Proofs.Name.RoundTrip

/-!
# Casing by bytes and casing by characters (SPEC §4.1)

Names are cased in two ways, by bytes where they are ASCII and by characters otherwise.  On ASCII both
say the same.  For snake case the two go along side by side.  For camel case one pass over characters
stands against two passes over bytes: the first remembers what was read, the second what was written.
An underscore is read and writes nothing, so it ends the memory of the first and not of the second.
-/

set_option autoImplicit false

namespace RpcBindings.Name

open Ascii (isCapital isSmall isNumeral raise lower isAscii)

/-! ## ASCII characters -/

/-- The ASCII character that a byte stands for. -/
def charOf (b : UInt8) : Char := Char.ofNat b.toNat

theorem charOf_facts : ∀ b : UInt8, b < 0x80 →
    Text.isUpper (charOf b) = isCapital b ∧ Text.isLower (charOf b) = isSmall b ∧
      Text.isDigit (charOf b) = isNumeral b ∧ Text.toUpper (charOf b) = charOf (raise b) ∧
      Text.toLower (charOf b) = charOf (lower b) ∧ (charOf b = '_' ↔ b = 0x5F) :=
  Bytes.forall_byte (by decide +kernel)

theorem raise_lt {b : UInt8} (h : b < 0x80) : raise b < 0x80 := (ascii_facts b h).2.2.2.1

theorem lower_lt {b : UInt8} (h : b < 0x80) : lower b < 0x80 := (ascii_facts b h).2.2.1

theorem isWordByte_of_isWordChar : ∀ b : UInt8, b < 0x80 →
    isWordChar (charOf b) = true → isWordByte b = true :=
  Bytes.forall_byte (by decide +kernel)

/-! ## Camel case -/

theorem collapsed_charOf (prevUpper : Bool) {b : UInt8} (h : b < 0x80) :
    (if prevUpper && Text.isUpper (charOf b) then Text.toLower (charOf b) else charOf b) =
      charOf (if prevUpper && isCapital b then lower b else b) := by
  obtain ⟨hupper, -, -, -, htoLower, -⟩ := charOf_facts b h
  rw [hupper, htoLower]
  split_ifs <;> rfl

/-- What is written for a letter: raised or lowered by what was read, then lowered by what was
written. -/
theorem camelChar_charOf (capNext prevCap prevUpper : Bool) {b : UInt8} (h : b < 0x80) :
    let cased := if capNext then raise b else if prevCap && isCapital b then lower b else b
    cased < 0x80 ∧ camelChar capNext prevCap prevUpper (charOf b) =
      charOf (if prevUpper && isCapital cased then lower cased else cased) := by
  intro cased
  obtain ⟨hupper, -, -, htoUpper, htoLower, -⟩ := charOf_facts b h
  have hread : (if capNext then Text.toUpper (charOf b)
      else if prevCap && Text.isUpper (charOf b) then Text.toLower (charOf b)
      else charOf b) = charOf cased := by
    simp only [cased, hupper, htoUpper, htoLower]
    split_ifs <;> rfl
  have hlt : cased < 0x80 := by
    simp only [cased]
    split_ifs
    · exact raise_lt h
    · exact lower_lt h
    · exact h
  refine ⟨hlt, ?_⟩
  rw [camelChar, hread]
  exact collapsed_charOf prevUpper hlt

theorem isWordByte_cases : ∀ b : UInt8, isWordByte b = true →
    b = 0x5F ∨ (isNumeral b = true ∧ b ≠ 0x5F) ∨
      ((isCapital b || isSmall b) = true ∧ isNumeral b = false ∧ b ≠ 0x5F) := by
  intro b h
  grind [isWordByte, isCapital, isSmall, isNumeral]

/-- The pass over characters does what the two passes over bytes do, from any state that they can be
in together. -/
theorem camelFrom_charOf {bs : Bytes} (h : ∀ b ∈ bs, isWordByte b = true)
    (capNext prevCap prevUpper : Bool) :
    camelFrom capNext prevCap prevUpper (bs.map charOf) =
      collapseFrom prevUpper ((Ascii.camelFrom capNext prevCap bs).map charOf) := by
  induction bs generalizing capNext prevCap prevUpper with
  | nil => rfl
  | cons b bs ih =>
      have hword := h b (by simp)
      have hbs := ih fun d hd => h d (by simp [hd])
      have hb := (isWordByte_facts b hword).1
      obtain ⟨hupper, -, hdigit, -, -, hline⟩ := charOf_facts b hb
      rw [List.map_cons, camelFrom]
      obtain rfl | ⟨hnumeral, hne⟩ | ⟨hletter, hnumeral, hne⟩ := isWordByte_cases b hword
      · -- Nothing is written, so what was written last stays what it was.
        rw [if_pos (hline.mpr rfl), camelFrom_line]
        exact hbs true false prevUpper
      · rw [if_neg (mt hline.mp hne), if_pos (hdigit.trans hnumeral), camelFrom_numeral hnumeral,
          List.map_cons, collapseFrom]
        simp only [hupper, (numeral_facts b hnumeral).1, Bool.and_false, Bool.false_eq_true, if_false,
          hbs]
      · rw [if_neg (mt hline.mp hne), if_neg (by simp [hdigit, hnumeral]), Ascii.camelFrom,
          if_pos hletter, List.map_cons, collapseFrom]
        obtain ⟨hcased, hchar⟩ := camelChar_charOf capNext prevCap prevUpper hb
        generalize (if capNext then raise b else if prevCap && isCapital b then lower b else b) =
          cased at hcased hchar
        simp only [hchar, collapsed_charOf prevUpper hcased, hupper, hbs]

/-! ## Snake case -/

theorem changes_charOf {b d : UInt8} (hb : b < 0x80) (hd : d < 0x80) :
    changes (charOf b) (charOf d) =
      ((isCapital b && (isSmall d || isNumeral d)) ||
        (isSmall b && (isCapital d || isNumeral d)) ||
        (isNumeral b && (isCapital d || isSmall d))) := by
  obtain ⟨hupper, hlower, hdigit, -⟩ := charOf_facts b hb
  obtain ⟨hupper', hlower', hdigit', -⟩ := charOf_facts d hd
  rw [changes, hupper, hlower, hdigit, hupper', hlower', hdigit']

theorem snakeFrom_charOf {bs : Bytes} (h : ∀ b ∈ bs, b < 0x80) (prevCap : Bool) :
    snakeFrom prevCap (bs.map charOf) = (Ascii.snakeFrom prevCap bs).map charOf := by
  induction bs generalizing prevCap with
  | nil => rfl
  | cons b bs ih =>
      have hb := h b (by simp)
      have hbs := ih fun d hd => h d (by simp [hd])
      obtain ⟨hupper, hlower, hdigit, -, htoLower, -⟩ := charOf_facts b hb
      rw [List.map_cons, snakeFrom, hupper, hbs]
      cases bs with
      | nil => simp [snakeChar, Ascii.snakeFrom, htoLower]
      | cons d bs =>
          have hd := h d (by simp)
          obtain ⟨-, hlower', hdigit', -⟩ := charOf_facts d hd
          have hline : charOf 0x5F = '_' := rfl
          simp only [List.map_cons, List.head?_cons, snakeChar, Ascii.snakeFrom,
            changes_charOf hb hd, hupper, hlower, hdigit, hlower', hdigit', htoLower]
          split_ifs <;> simp [hline]

/-! ## Agreement -/

/-- The ASCII texts that separating a name can lead to. -/
theorem forall_isWordByte_iff {s : Bytes} :
    (∀ b ∈ s, isWordByte b = true) ↔ isAscii s = true ∧ ∃ name, separate name = s := by
  constructor
  · intro h
    exact ⟨isAscii_of_forall h, s, separate_of_forall h⟩
  · rintro ⟨hascii, name, rfl⟩ b hb
    have hlt := forall_lt_of_isAscii hascii
    -- The bytes are ASCII, so they are the characters that were separated.
    have hmem : charOf b ∈ separateRunes (Utf8.runes name) := by
      rw [← Utf8.runes_encode (separateRunes (Utf8.runes name))]
      rw [separate] at hb hlt
      rw [Utf8.runes_ascii hlt]
      exact List.mem_map_of_mem hb
    obtain ⟨c, -, hc⟩ := List.mem_map.mp hmem
    refine isWordByte_of_isWordChar b (hlt b hb) ?_
    rw [← hc, separateChar]
    split_ifs with hword
    · exact hword
    · decide

section

variable {s : Bytes} (h : ∀ b ∈ s, isWordByte b = true)
include h

theorem encode_camel_eq :
    Utf8.encode (camel (Utf8.runes s)) = Utf8.encode (collapse (Utf8.runes (Ascii.camel s))) := by
  have hlt : ∀ b ∈ s, b < 0x80 := fun b hb => (isWordByte_facts b (h b hb)).1
  have hcamel := Ascii.camelFrom_forall (P := fun b => b < 0x80) (fun _ => raise_lt)
    (fun _ => lower_lt) hlt true false
  rw [Utf8.runes_ascii hlt, Ascii.camel, Utf8.runes_ascii hcamel]
  exact congrArg Utf8.encode (camelFrom_charOf h true false false)

theorem encode_snake_eq : Utf8.encode (snake (Utf8.runes s)) = Ascii.snake s := by
  have hlt : ∀ b ∈ s, b < 0x80 := fun b hb => (isWordByte_facts b (h b hb)).1
  have hsnake := Ascii.snakeFrom_forall (P := fun b => b < 0x80) (by decide) (fun _ => lower_lt)
    hlt false
  calc Utf8.encode (snake (Utf8.runes s))
      = Utf8.encode ((Ascii.snake s).map charOf) := by
        rw [Utf8.runes_ascii hlt]
        exact congrArg Utf8.encode (snakeFrom_charOf hlt false)
    _ = Ascii.snake s := encode_ascii hsnake

end

/-- Type style is camel case by characters, also where it is computed by bytes. -/
theorem typeStyle_eq_camel (name : Bytes) :
    typeStyle name = Utf8.encode (camel (Utf8.runes (separate name))) := by
  unfold typeStyle
  by_cases hascii : isAscii (separate name) = true
  · rw [if_pos hascii, encode_camel_eq (forall_isWordByte_iff.mpr ⟨hascii, name, rfl⟩)]
  · rw [if_neg hascii]

/-- Member style is snake case by characters, also where it is computed by bytes. -/
theorem memberStyle_eq_snake (name : Bytes) :
    memberStyle name = Utf8.encode (snake (Utf8.runes (separate name))) := by
  unfold memberStyle
  by_cases hascii : isAscii (separate name) = true
  · rw [if_pos hascii, encode_snake_eq (forall_isWordByte_iff.mpr ⟨hascii, name, rfl⟩)]
  · rw [if_neg hascii]

/-- On letters, digits and underscores, which are all that an ASCII name consists of once it is
separated, casing by characters and casing by bytes agree in both styles. -/
theorem casings_agree (s : Bytes) :
    ((∀ b ∈ s, isWordByte b = true) ↔ isAscii s = true ∧ ∃ name, separate name = s) ∧
    ((∀ b ∈ s, isWordByte b = true) →
      Utf8.encode (camel (Utf8.runes s)) = Utf8.encode (collapse (Utf8.runes (Ascii.camel s))) ∧
      Utf8.encode (snake (Utf8.runes s)) = Ascii.snake s) :=
  ⟨forall_isWordByte_iff, fun h => ⟨encode_camel_eq h, encode_snake_eq h⟩⟩

/-- Capitals meet across an underscore, where one pass forgets what the other remembers. -/
theorem casings_agree_on_capitals :
    let s : Bytes := "A_BCd_2E"
    (∀ b ∈ s, isWordByte b = true) ∧
      Utf8.encode (camel (Utf8.runes s)) = Bytes.ofString "Abcd2E" ∧
      Utf8.encode (snake (Utf8.runes s)) = Bytes.ofString "a_b_cd_2_e" := by
  intro s
  have hword : ∀ b ∈ s, isWordByte b = true := List.all_eq_true.mp (by decide +kernel)
  obtain ⟨hcamel, hsnake⟩ := (casings_agree s).2 hword
  exact ⟨hword, hcamel.trans (by decide +kernel), hsnake.trans (by decide +kernel)⟩

end RpcBindings.Name
