import RpcBindings.Name.Keyword
import RpcBindings.Proofs.Code.Lexical
import RpcBindings.Proofs.Text.Bytes
import RpcBindings.Settings.RustPath

/-!
# Identifiers hold no delimiters (SPEC §4.1)

Whatever a name is made of, the identifiers made from it hold neither quotes nor brackets.
Separating a name takes them out, and no casing brings one in: what holds of the underscore and is
kept by the case maps holds of every character of a cased name.  Names that consist of letters,
digits and underscores, and paths of Rust, hold none to begin with.
-/

set_option autoImplicit false

namespace RpcBindings

open RpcBindings.Code.Lexical (isPlain isPlain_iff isPlainByte isPlainByte_iff marks PlainText
  plainText_ascii plainText_encode plainText_of_forall)

/-! ## Case maps -/

/-- The images of the run are letters of ASCII or lie behind all brackets. -/
def MapRun.avoidsMarks (r : MapRun) : Bool :=
  0x7E ≤ r.image ||
    (0x41 ≤ r.image && r.image + (r.last - r.first) ≤ 0x5A) ||
    (0x61 ≤ r.image && r.image + (r.last - r.first) ≤ 0x7A)

theorem MapRun.apply_avoids_marks {n : Nat} (hn : n ∉ marks.map Char.toNat) {runs : List MapRun}
    (h : runs.all MapRun.avoidsMarks = true) : MapRun.apply n runs ∉ marks.map Char.toNat := by
  induction runs with
  | nil => exact hn
  | cons r runs ih =>
      rw [List.all_cons, Bool.and_eq_true] at h
      unfold MapRun.apply
      split_ifs with hfirst hlast hstep
      · exact hn
      · have hr := h.1
        simp only [avoidsMarks, Bool.or_eq_true, Bool.and_eq_true, decide_eq_true_eq] at hr
        simp only [marks, List.map_cons, List.map_nil, List.mem_cons, List.not_mem_nil, or_false,
          Char.reduceToNat]
        omega
      · exact hn
      · exact ih h.2

theorem toNat_not_mem_marks {c : Char} (h : isPlain c = true) :
    c.toNat ∉ marks.map Char.toNat := by
  intro hc
  obtain ⟨d, hd, hdc⟩ := List.mem_map.mp hc
  rw [Char.toNat_inj.mp hdc] at hd
  exact isPlain_iff.mp h hd

theorem isPlain_ofNat {n : Nat} (h : n ∉ marks.map Char.toNat) : isPlain (Char.ofNat n) = true := by
  by_cases hn : n.isValidChar
  · have htoNat : (Char.ofNat n).toNat = n := by
      rw [Char.ofNat, dif_pos hn]
      rfl
    rw [isPlain_iff]
    intro hmark
    exact h (List.mem_map.mpr ⟨_, hmark, htoNat⟩)
  · rw [Char.ofNat, dif_neg hn]
    decide

theorem isPlain_toUpper {c : Char} (h : isPlain c = true) : isPlain (Text.toUpper c) = true :=
  isPlain_ofNat (MapRun.apply_avoids_marks (toNat_not_mem_marks h) (by decide +kernel))

theorem isPlain_toLower {c : Char} (h : isPlain c = true) : isPlain (Text.toLower c) = true :=
  isPlain_ofNat (MapRun.apply_avoids_marks (toNat_not_mem_marks h) (by decide +kernel))

namespace Name

/-! ## Casing -/

section

variable {P : Char → Prop}

theorem collapseFrom_forall (hlower : ∀ c, P c → P (Text.toLower c)) {cs : List Char}
    (h : ∀ c ∈ cs, P c) (prevUpper : Bool) : ∀ c ∈ collapseFrom prevUpper cs, P c := by
  induction cs generalizing prevUpper with
  | nil => simp [collapseFrom]
  | cons c cs ih =>
      have hc := h c (by simp)
      refine List.forall_mem_cons.mpr ⟨?_, ih (fun d hd => h d (by simp [hd])) _⟩
      split_ifs
      · exact hlower c hc
      · exact hc

theorem camelChar_of (hupper : ∀ c, P c → P (Text.toUpper c))
    (hlower : ∀ c, P c → P (Text.toLower c)) {c : Char} (h : P c) (raise prevCap prevUpper : Bool) :
    P (camelChar raise prevCap prevUpper c) := by
  have hcased : P (if raise then Text.toUpper c
      else if prevCap && Text.isUpper c then Text.toLower c else c) := by
    split_ifs
    · exact hupper c h
    · exact hlower c h
    · exact h
  unfold camelChar
  simp only
  generalize (if raise then Text.toUpper c
    else if prevCap && Text.isUpper c then Text.toLower c else c) = cased at hcased ⊢
  split_ifs
  · exact hlower cased hcased
  · exact hcased

theorem camelFrom_forall (hupper : ∀ c, P c → P (Text.toUpper c))
    (hlower : ∀ c, P c → P (Text.toLower c)) {cs : List Char} (h : ∀ c ∈ cs, P c)
    (raise prevCap prevUpper : Bool) : ∀ c ∈ camelFrom raise prevCap prevUpper cs, P c := by
  induction cs generalizing raise prevCap prevUpper with
  | nil => simp [camelFrom]
  | cons c cs ih =>
      have hc := h c (by simp)
      have hcs : ∀ d ∈ cs, P d := fun d hd => h d (by simp [hd])
      unfold camelFrom
      split_ifs
      · exact ih hcs _ _ _
      · exact List.forall_mem_cons.mpr ⟨hc, ih hcs _ _ _⟩
      · exact List.forall_mem_cons.mpr ⟨camelChar_of hupper hlower hc _ _ _, ih hcs _ _ _⟩

theorem snakeFrom_forall (hline : P '_') (hlower : ∀ c, P c → P (Text.toLower c)) {cs : List Char}
    (h : ∀ c ∈ cs, P c) (prevCap : Bool) : ∀ c ∈ snakeFrom prevCap cs, P c := by
  induction cs generalizing prevCap with
  | nil => simp [snakeFrom]
  | cons c cs ih =>
      have hc := hlower c (h c (by simp))
      refine List.forall_mem_append.mpr ⟨?_, ih (fun d hd => h d (by simp [hd])) _⟩
      unfold snakeChar
      split
      · simpa using hc
      · split_ifs <;> simp [hc, hline]

end

section

variable {P : UInt8 → Prop}

theorem Ascii.camelFrom_forall (hraise : ∀ b, P b → P (Ascii.raise b))
    (hlower : ∀ b, P b → P (Ascii.lower b)) {bs : Bytes} (h : ∀ b ∈ bs, P b)
    (capNext prevCap : Bool) : ∀ b ∈ Ascii.camelFrom capNext prevCap bs, P b := by
  induction bs generalizing capNext prevCap with
  | nil => simp [Ascii.camelFrom]
  | cons b bs ih =>
      have hb := h b (by simp)
      have hbs : ∀ d ∈ bs, P d := fun d hd => h d (by simp [hd])
      unfold Ascii.camelFrom
      split_ifs
      · exact List.forall_mem_cons.mpr ⟨hraise b hb, ih hbs _ _⟩
      · exact List.forall_mem_cons.mpr ⟨hlower b hb, ih hbs _ _⟩
      · exact List.forall_mem_cons.mpr ⟨hb, ih hbs _ _⟩
      · exact List.forall_mem_cons.mpr ⟨hb, ih hbs _ _⟩
      · exact ih hbs _ _

theorem Ascii.snakeFrom_forall (hline : P 0x5F) (hlower : ∀ b, P b → P (Ascii.lower b)) {bs : Bytes}
    (h : ∀ b ∈ bs, P b) (prevCap : Bool) : ∀ b ∈ Ascii.snakeFrom prevCap bs, P b := by
  induction bs generalizing prevCap with
  | nil => simp [Ascii.snakeFrom]
  | cons b bs ih =>
      have hb := hlower b (h b (by simp))
      cases bs with
      | nil => simpa [Ascii.snakeFrom] using hb
      | cons d bs =>
          have hrest := ih (fun e he => h e (by simp [he])) (Ascii.isCapital b)
          unfold Ascii.snakeFrom
          simp only
          split_ifs <;> simpa [hb, hline] using hrest

end

/-! ## Names -/

theorem isPlain_of_isWordChar {c : Char} (h : isWordChar c = true) : isPlain c = true := by
  have hmarks : (marks.all fun d => !isWordChar d) = true := by decide
  rw [isPlain_iff]
  intro hc
  have hword := List.all_eq_true.mp hmarks c hc
  rw [h] at hword
  cases hword

theorem isPlain_of_mem_separateRunes (cs : List Char) :
    ∀ c ∈ separateRunes cs, isPlain c = true := by
  refine List.forall_mem_map.mpr ?_
  intro c _
  unfold separateChar
  split_ifs with hc
  · exact isPlain_of_isWordChar hc
  · decide

theorem isPlainByte_raise : ∀ b : UInt8, isPlainByte b = true →
    isPlainByte (Ascii.raise b) = true :=
  Bytes.forall_byte (by decide +kernel)

theorem isPlainByte_lower : ∀ b : UInt8, isPlainByte b = true →
    isPlainByte (Ascii.lower b) = true :=
  Bytes.forall_byte (by decide +kernel)

theorem forall_lt_of_isAscii {bs : Bytes} (h : Ascii.isAscii bs = true) : ∀ b ∈ bs, b < 0x80 := by
  intro b hb
  exact of_decide_eq_true (List.all_eq_true.mp h b hb)

theorem isPlainByte_of_mem_separate {name : Bytes} (h : Ascii.isAscii (separate name) = true) :
    ∀ b ∈ separate name, isPlainByte b = true := by
  have hascii := forall_lt_of_isAscii h
  have hrunes : (separate name).map (fun b => Char.ofNat b.toNat) =
      separateRunes (Utf8.runes name) := by
    rw [← Utf8.runes_ascii hascii, separate, Utf8.runes_encode]
  intro b hb
  refine isPlainByte_iff.mpr ⟨hascii b hb, isPlain_of_mem_separateRunes (Utf8.runes name) _ ?_⟩
  rw [← hrunes]
  exact List.mem_map.mpr ⟨b, hb, rfl⟩

theorem plainText_typeStyle (name : Bytes) : PlainText (typeStyle name) := by
  unfold typeStyle
  simp only
  split_ifs with h
  · have hcamel := Ascii.camelFrom_forall (P := fun b => isPlainByte b = true)
      isPlainByte_raise isPlainByte_lower (isPlainByte_of_mem_separate h)
      true false
    exact plainText_encode (collapseFrom_forall (P := fun c => isPlain c = true)
      (fun _ => isPlain_toLower) (plainText_of_forall hcamel).plain _)
  · rw [separate, Utf8.runes_encode]
    exact plainText_encode (camelFrom_forall (P := fun c => isPlain c = true)
      (fun _ => isPlain_toUpper) (fun _ => isPlain_toLower) (isPlain_of_mem_separateRunes _) _ _ _)

theorem plainText_memberStyle (name : Bytes) : PlainText (memberStyle name) := by
  unfold memberStyle
  simp only
  split_ifs with h
  · exact plainText_of_forall (Ascii.snakeFrom_forall (P := fun b => isPlainByte b = true)
      (by decide) isPlainByte_lower (isPlainByte_of_mem_separate h) false)
  · rw [separate, Utf8.runes_encode]
    exact plainText_encode (snakeFrom_forall (P := fun c => isPlain c = true) (by decide)
      (fun _ => isPlain_toLower) (isPlain_of_mem_separateRunes _) _)

theorem plainText_escapeKeyword {name : Bytes} (h : PlainText name) :
    PlainText (escapeKeyword name) := by
  unfold escapeKeyword
  split_ifs
  · exact h.append (plainText_ascii (by decide))
  · exact PlainText.append (plainText_ascii (by decide)) h
  · exact h

/-- Identifiers of modules, functions and arguments hold no delimiter, whatever they are made
from. -/
theorem plainText_memberIdent (name : Bytes) : PlainText (memberIdent name) := by
  have hstyle := plainText_memberStyle name
  unfold memberIdent
  split
  · exact plainText_ascii (by decide)
  · exact plainText_escapeKeyword hstyle

/-- The name consists of letters, digits and underscores. -/
def isWord (name : Bytes) : Bool := (Utf8.runes name).all isWordChar

set_option maxRecDepth 4000 in
theorem isWordChar_replacement : isWordChar Utf8.replacement = false := by decide

theorem plainText_of_isWord {name : Bytes} (h : isWord name = true) : PlainText name := by
  have hword : ∀ c ∈ Utf8.runes name, isWordChar c = true := List.all_eq_true.mp h
  refine ⟨Utf8.isValid_of_runes ?_, fun c hc => isPlain_of_isWordChar (hword c hc)⟩
  intro c hc hreplacement
  have hc' := hword c hc
  rw [hreplacement, isWordChar_replacement] at hc'
  cases hc'

end Name

/-! ## Paths -/

namespace RustPath

theorem mem_segments {bs : Bytes} {b : UInt8} (h : b ∈ bs) :
    b = 0x3A ∨ ∃ part ∈ segments bs, b ∈ part := by
  fun_induction segments bs with
  | case1 => simp at h
  | case2 d => exact .inr ⟨[d], by simp, h⟩
  | case3 d e rest hcolons ih =>
      simp only [List.mem_cons] at h
      obtain rfl | rfl | h := h
      · exact .inl hcolons.1
      · exact .inl hcolons.2
      · obtain hb | ⟨part, hpart, hb⟩ := ih h
        · exact .inl hb
        · exact .inr ⟨part, by simp [hpart], hb⟩
  | case4 d e rest _ hnil ih =>
      obtain rfl | h := List.mem_cons.mp h
      · exact .inr ⟨[b], by simp, by simp⟩
      · exact .inl (by simpa [hnil] using ih h)
  | case5 d e rest _ part parts hparts ih =>
      obtain rfl | h := List.mem_cons.mp h
      · exact .inr ⟨b :: part, by simp, by simp⟩
      · obtain hb | ⟨other, hother, hb⟩ := ih h
        · exact .inl hb
        · rw [hparts] at hother
          obtain rfl | hother := List.mem_cons.mp hother
          · exact .inr ⟨d :: other, by simp, by simp [hb]⟩
          · exact .inr ⟨other, by simp [hother], hb⟩

/-- The byte can stand in a path. -/
def isPathByte (b : UInt8) : Bool := isContinue b || b == 0x3A || b == 0x23

theorem isPathByte_of_isSegment {bs : Bytes} (h : isSegment bs = true) :
    ∀ b ∈ bs, isPathByte b = true := by
  have hident : ∀ {ident : Bytes}, isIdentifier ident = true → ∀ b ∈ ident, isPathByte b = true := by
    intro ident hident b hb
    cases ident with
    | nil => cases hb
    | cons d rest =>
        simp only [isIdentifier, Bool.and_eq_true, List.all_eq_true] at hident
        obtain rfl | hb := List.mem_cons.mp hb
        · simp [isPathByte, isContinue, hident.1]
        · simp [isPathByte, hident.2 b hb]
  unfold isSegment at h
  cases hraw : Bytes.after? "r#" bs with
  | none =>
      rw [hraw] at h
      exact hident h
  | some ident =>
      rw [hraw] at h
      rw [Bytes.after?_eq_some_iff.mp hraw]
      exact List.forall_mem_append.mpr ⟨List.all_eq_true.mp (by decide), hident h⟩

theorem isPathByte_of_isPath {bs : Bytes} (h : isPath bs = true) :
    ∀ b ∈ bs, isPathByte b = true := by
  have hsegments : ∀ {inner : Bytes}, (segments inner).all isSegment = true →
      ∀ b ∈ inner, isPathByte b = true := by
    intro inner hinner b hb
    obtain rfl | ⟨part, hpart, hb⟩ := mem_segments hb
    · decide
    · exact isPathByte_of_isSegment (List.all_eq_true.mp hinner part hpart) b hb
  unfold isPath at h
  cases hroot : Bytes.after? "::" bs with
  | none =>
      rw [hroot] at h
      exact hsegments h
  | some inner =>
      rw [hroot] at h
      rw [Bytes.after?_eq_some_iff.mp hroot]
      exact List.forall_mem_append.mpr ⟨List.all_eq_true.mp (by decide), hsegments h⟩

theorem plainText_of_isPath {bs : Bytes} (h : isPath bs = true) : PlainText bs := by
  have hplain : ∀ b, isPathByte b = true → isPlainByte b = true :=
    Bytes.forall_byte (by decide +kernel)
  exact plainText_of_forall fun b hb => hplain b (isPathByte_of_isPath h b hb)

end RustPath

end RpcBindings
