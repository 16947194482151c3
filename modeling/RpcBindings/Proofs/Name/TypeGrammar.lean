import Mathlib.Data.List.Chain
import RpcBindings.Proofs.Name.Agreement
import RpcBindings.Proofs.Text.Tables

/-!
# Which names are in type style (SPEC §4.1)

A name is in type style when rendering it in type style changes nothing.  That is a statement about
trimming, separating, camel case and collapsing, in two versions, but it comes down to what each
letter may follow: at the start and behind a digit it has to be as large as it can be, and behind a
capital it must not be a capital that could be a small letter.

Whatever camel case writes is of this kind, and it leaves unchanged what is of this kind.  So type
style twice is type style once, also where the first rendering turns a name that is not ASCII into
one that is.
-/

set_option autoImplicit false

namespace RpcBindings.Name

open Text (isLetter isUpper isDigit toUpper toLower)
open Ascii (isCapital isSmall isNumeral isAscii)

/-! ## Separated names -/

theorem isWordChar_iff {c : Char} :
    isWordChar c = true ↔ c = '_' ∨ isLetter c = true ∨ isDigit c = true := by
  simp [isWordChar, or_assoc]

theorem isBlank_of_isWordChar {c : Char} (h : isWordChar c = true) : Text.isBlank c = false := by
  rcases isWordChar_iff.mp h with rfl | hletter | hdigit
  · decide
  · exact Text.isBlank_of_isLetter hletter
  · exact Text.isBlank_of_isDigit hdigit

theorem isWordChar_of_mem_separateRunes {cs : List Char} :
    ∀ c ∈ separateRunes cs, isWordChar c = true := by
  intro c hc
  obtain ⟨d, -, rfl⟩ := List.mem_map.mp hc
  unfold separateChar
  split_ifs with hd
  · exact hd
  · decide

theorem separateRunes_of_isWordChar {cs : List Char} (h : ∀ c ∈ cs, isWordChar c = true) :
    separateRunes cs = cs := by
  have hkept : ∀ c ∈ cs, separateChar c = c := by
    intro c hc
    rw [separateChar, if_pos (h c hc)]
  rw [separateRunes, trimRunes_of_forall fun c hc => isBlank_of_isWordChar (h c hc),
    List.map_congr_left hkept, List.map_id']

theorem typeStyle_eq_encode (name : Bytes) :
    typeStyle name = Utf8.encode (camel (separateRunes (Utf8.runes name))) := by
  rw [typeStyle_eq_camel, separate, Utf8.runes_encode]

/-! ## What camel case writes -/

/-- Letters and digits from the middle of a name on.  `due` tells that a letter here must be as
large as it can be, as at the start and behind a digit; `follows` tells that it comes behind a
capital. -/
inductive Cased : Bool → Bool → List Char → Prop where
  | nil {due follows : Bool} : Cased due follows []
  | digit {due follows : Bool} {c : Char} {cs : List Char} :
      isDigit c = true → Cased true false cs → Cased due follows (c :: cs)
  | letter {due follows : Bool} {c : Char} {cs : List Char} :
      isLetter c = true → (due = true → toUpper c = c) →
      (follows = true → isUpper c = true → toLower c = c) →
      Cased false (isUpper c) cs → Cased due follows (c :: cs)

theorem isLetter_camelChar {c : Char} (h : isLetter c = true) (raise prevCap prevUpper : Bool) :
    isLetter (camelChar raise prevCap prevUpper c) = true :=
  camelChar_of (P := fun c => isLetter c = true) (fun _ => Text.isLetter_toUpper)
    (fun _ => Text.isLetter_toLower) h raise prevCap prevUpper

/-- What is written behind a capital is no capital, or one that has no small letter. -/
theorem toLower_camelChar {c : Char} (h : isLetter c = true) {raise prevCap : Bool}
    (hupper : isUpper (camelChar raise prevCap true c) = true) :
    toLower (camelChar raise prevCap true c) = camelChar raise prevCap true c := by
  have hcased := isLetter_camelChar h raise prevCap false
  unfold camelChar at hupper hcased ⊢
  simp only [Bool.true_and, Bool.false_and, Bool.false_eq_true, if_false] at hupper hcased ⊢
  generalize (if raise then toUpper c else if prevCap && isUpper c then toLower c else c) = cased
    at hupper hcased ⊢
  split_ifs at hupper ⊢ with hcap
  · exact Text.toLower_toLower hcased
  · exact absurd hupper hcap

/-- What camel case writes keeps to the rule, from any state it can be in: where a capital is due it
is asked for, and nothing that it could collapse with was written. -/
theorem cased_camelFrom {cs : List Char} (h : ∀ c ∈ cs, isWordChar c = true)
    {due raise prevUpper : Bool} (prevCap : Bool) (hraise : due = true → raise = true)
    (hprev : due = true → prevUpper = false) :
    Cased due prevUpper (camelFrom raise prevCap prevUpper cs) := by
  induction cs generalizing due raise prevCap prevUpper with
  | nil => exact .nil
  | cons c cs ih =>
      have hcs : ∀ d ∈ cs, isWordChar d = true := fun d hd => h d (by simp [hd])
      rw [camelFrom]
      split_ifs with hline hdigit
      · exact ih hcs false (fun _ => rfl) hprev
      · exact .digit hdigit (ih hcs false (fun _ => rfl) (fun _ => rfl))
      · have hletter : isLetter c = true := by
          rcases isWordChar_iff.mp (h c (by simp)) with hc | hc | hc
          · exact absurd hc hline
          · exact hc
          · exact absurd hc hdigit
        refine .letter (isLetter_camelChar hletter raise prevCap prevUpper) ?_ ?_
          (ih hcs _ (by simp) (by simp))
        · intro hdue
          rw [hraise hdue, hprev hdue]
          exact Text.toUpper_toUpper hletter
        · rintro rfl hupper
          exact toLower_camelChar hletter hupper

theorem cased_camel {cs : List Char} (h : ∀ c ∈ cs, isWordChar c = true) :
    Cased true false (camel cs) :=
  cased_camelFrom h false (fun _ => rfl) (fun _ => rfl)

/-! ## What camel case leaves unchanged -/

theorem ne_line_of_isLetter {c : Char} (h : isLetter c = true) : c ≠ '_' := by
  rintro rfl
  revert h
  decide

theorem ne_line_of_isDigit {c : Char} (h : isDigit c = true) : c ≠ '_' := by
  rintro rfl
  revert h
  decide

theorem camelChar_eq_self {due follows : Bool} (hstate : due = true → follows = false) {c : Char}
    (hdue : due = true → toUpper c = c)
    (hfollows : follows = true → isUpper c = true → toLower c = c) :
    camelChar due follows follows c = c := by
  have hcollapsed : (if follows && isUpper c then toLower c else c) = c := by
    split_ifs with hcap
    · rw [Bool.and_eq_true] at hcap
      exact hfollows hcap.1 hcap.2
    · rfl
  unfold camelChar
  cases due with
  | true => simp [hdue rfl, hstate rfl]
  | false => simp only [Bool.false_eq_true, if_false, hcollapsed]

theorem Cased.camelFrom_eq {due follows : Bool} {cs : List Char} (h : Cased due follows cs)
    (hstate : due = true → follows = false) : camelFrom due follows follows cs = cs := by
  induction h with
  | nil => rfl
  | digit hc _ ih =>
      rw [camelFrom, if_neg (ne_line_of_isDigit hc), if_pos hc, ih (fun _ => rfl)]
  | letter hc hdue hfollows _ ih =>
      have hdigit := Text.isDigit_of_isLetter hc
      rw [camelFrom, if_neg (ne_line_of_isLetter hc), if_neg (by simp [hdigit])]
      simp only [camelChar_eq_self hstate hdue hfollows, ih (by simp)]

theorem Cased.isWordChar {due follows : Bool} {cs : List Char} (h : Cased due follows cs) :
    ∀ c ∈ cs, isWordChar c = true := by
  induction h with
  | nil => simp
  | digit hc _ ih => exact List.forall_mem_cons.mpr ⟨isWordChar_iff.mpr (.inr (.inr hc)), ih⟩
  | letter hc _ _ _ ih => exact List.forall_mem_cons.mpr ⟨isWordChar_iff.mpr (.inr (.inl hc)), ih⟩

theorem Cased.typeStyle_encode {cs : List Char} (h : Cased true false cs) :
    typeStyle (Utf8.encode cs) = Utf8.encode cs := by
  rw [typeStyle_eq_encode, Utf8.runes_encode, separateRunes_of_isWordChar h.isWordChar]
  exact congrArg Utf8.encode (h.camelFrom_eq (fun _ => rfl))

theorem typeStyle_typeStyle (name : Bytes) : typeStyle (typeStyle name) = typeStyle name := by
  rw [typeStyle_eq_encode name]
  exact (cased_camel isWordChar_of_mem_separateRunes).typeStyle_encode

theorem isTypeStyle_iff {name : Bytes} :
    isTypeStyle name = true ↔ name ≠ [] ∧ typeStyle name = name := by
  rw [isTypeStyle, Bool.and_eq_true, bne_iff_ne, beq_iff_eq]

/-- Rendering a name in type style is done once and for all: the result is in type style as it
stands, unless nothing is left of the name. -/
theorem typeStyle_idempotent (name : Bytes) :
    typeStyle (typeStyle name) = typeStyle name ∧
      (isTypeStyle (typeStyle name) = true ↔ typeStyle name ≠ []) := by
  have hstyle := typeStyle_typeStyle name
  refine ⟨hstyle, ?_⟩
  rw [isTypeStyle_iff]
  exact and_iff_left hstyle

/-! ## The grammar -/

/-- What a name in type style looks like, place by place. -/
structure TypeGrammar (cs : List Char) : Prop where
  /-- There are only letters and digits. -/
  chars : ∀ c ∈ cs, isLetter c = true ∨ isDigit c = true
  /-- A letter at the start has no upper-case counterpart but itself. -/
  start : ∀ c ∈ cs.head?, isLetter c = true → toUpper c = c
  /-- Nor has a letter behind a digit. -/
  behindDigit : cs.IsChain fun d c => isDigit d = true → isLetter c = true → toUpper c = c
  /-- A letter behind a capital is no capital, or one without a small letter. -/
  behindCapital : cs.IsChain fun p c =>
    isUpper p = true → isLetter c = true → isUpper c = false ∨ toLower c = c

/-- A digit has no case, and what follows it is due to be a capital. -/
theorem cased_cons_digit_iff {due follows : Bool} {c : Char} {cs : List Char}
    (hc : isDigit c = true) : Cased due follows (c :: cs) ↔ Cased true false cs := by
  constructor
  · intro h
    cases h with
    | digit _ hcs => exact hcs
    | letter hletter =>
        rw [Text.isDigit_of_isLetter hletter] at hc
        cases hc
  · exact .digit hc

theorem cased_cons_letter_iff {due follows : Bool} {c : Char} {cs : List Char}
    (hc : isLetter c = true) :
    Cased due follows (c :: cs) ↔
      (due = true → toUpper c = c) ∧ (follows = true → isUpper c = true → toLower c = c) ∧
        Cased false (isUpper c) cs := by
  constructor
  · intro h
    cases h with
    | digit hdigit =>
        rw [Text.isDigit_of_isLetter hc] at hdigit
        cases hdigit
    | letter _ hdue hfollows hcs => exact ⟨hdue, hfollows, hcs⟩
  · rintro ⟨hdue, hfollows, hcs⟩
    exact .letter hc hdue hfollows hcs

/-- The rule for what stands from the middle of a name on, place by place. -/
theorem cased_iff {due follows : Bool} {cs : List Char} :
    Cased due follows cs ↔
      (∀ c ∈ cs, isLetter c = true ∨ isDigit c = true) ∧
      (∀ c ∈ cs.head?, isLetter c = true →
        (due = true → toUpper c = c) ∧ (follows = true → isUpper c = true → toLower c = c)) ∧
      (cs.IsChain fun d c => isDigit d = true → isLetter c = true → toUpper c = c) ∧
      cs.IsChain fun p c =>
        isUpper p = true → isLetter c = true → isUpper c = true → toLower c = c := by
  induction cs generalizing due follows with
  | nil => simp [Cased.nil]
  | cons c cs ih =>
      simp only [List.forall_mem_cons, List.head?_cons, Option.mem_some_iff, forall_eq',
        List.isChain_cons]
      by_cases hletter : isLetter c = true
      · have hdigit := Text.isDigit_of_isLetter hletter
        rw [cased_cons_letter_iff hletter, ih]
        constructor
        · rintro ⟨hdue, hfollows, hchars, hhead, hdigits, hcapitals⟩
          refine ⟨⟨.inl hletter, hchars⟩, fun _ => ⟨hdue, hfollows⟩, ⟨?_, hdigits⟩, ?_, hcapitals⟩
          · intro d _ hc
            rw [hdigit] at hc
            cases hc
          · intro d hd hc hd'
            exact (hhead d hd hd').2 hc
        · rintro ⟨⟨-, hchars⟩, hhead, ⟨-, hdigits⟩, hbehind, hcapitals⟩
          refine ⟨(hhead hletter).1, (hhead hletter).2, hchars, ?_, hdigits, hcapitals⟩
          intro d hd hd'
          exact ⟨by simp, fun hc => hbehind d hd hc hd'⟩
      · by_cases hdigit : isDigit c = true
        · rw [cased_cons_digit_iff hdigit, ih]
          constructor
          · rintro ⟨hchars, hhead, hdigits, hcapitals⟩
            refine ⟨⟨.inr hdigit, hchars⟩, fun hc => absurd hc hletter, ⟨?_, hdigits⟩, ?_,
              hcapitals⟩
            · intro d hd _ hd'
              exact (hhead d hd hd').1 rfl
            · intro d _ hc
              rw [Text.isDigit_of_isUpper hc] at hdigit
              cases hdigit
          · rintro ⟨⟨-, hchars⟩, -, ⟨hbehind, hdigits⟩, -, hcapitals⟩
            refine ⟨hchars, ?_, hdigits, hcapitals⟩
            intro d hd hd'
            exact ⟨fun _ => hbehind d hd hdigit hd', by simp⟩
        · constructor
          · intro h
            cases h with
            | digit hc => exact absurd hc hdigit
            | letter hc => exact absurd hc hletter
          · rintro ⟨⟨hc | hc, -⟩, -⟩
            · exact absurd hc hletter
            · exact absurd hc hdigit

theorem eq_false_or_iff {b : Bool} {p : Prop} : b = false ∨ p ↔ (b = true → p) := by
  cases b <;> simp

theorem typeGrammar_iff {cs : List Char} : TypeGrammar cs ↔ Cased true false cs := by
  rw [cased_iff]
  constructor
  · intro h
    refine ⟨h.chars, ?_, h.behindDigit, ?_⟩
    · intro c hc hletter
      exact ⟨fun _ => h.start c hc hletter, by simp⟩
    · simpa only [eq_false_or_iff] using h.behindCapital
  · rintro ⟨hchars, hhead, hdigits, hcapitals⟩
    refine ⟨hchars, fun c hc hletter => (hhead c hc hletter).1 rfl, hdigits, ?_⟩
    simpa only [eq_false_or_iff] using hcapitals

/-- A name is in type style exactly if it is valid text that keeps to the rule. -/
theorem isTypeStyle_iff_cased {name : Bytes} :
    isTypeStyle name = true ↔
      name ≠ [] ∧ Utf8.isValid name = true ∧ Cased true false (Utf8.runes name) := by
  rw [isTypeStyle_iff]
  constructor
  · rintro ⟨hne, hstyle⟩
    rw [typeStyle_eq_encode] at hstyle
    refine ⟨hne, ?_, ?_⟩
    · rw [← hstyle]
      exact Utf8.isValid_encode _
    · rw [← hstyle, Utf8.runes_encode]
      exact cased_camel isWordChar_of_mem_separateRunes
  · rintro ⟨hne, hvalid, hcased⟩
    refine ⟨hne, ?_⟩
    rw [← Utf8.encode_runes hvalid]
    exact hcased.typeStyle_encode

/-! ## ASCII -/

/-- What an ASCII name in type style looks like. -/
structure AsciiTypeGrammar (name : Bytes) : Prop where
  nonempty : name ≠ []
  bytes : ∀ b ∈ name, isCapital b = true ∨ isSmall b = true ∨ isNumeral b = true
  /-- No small letter stands at the start. -/
  start : ∀ b ∈ name.head?, isSmall b = false
  /-- No small letter stands behind a digit. -/
  behindDigit : name.IsChain fun d b => isNumeral d = true → isSmall b = false
  /-- No two capitals are neighbours. -/
  behindCapital : name.IsChain fun p b => ¬ (isCapital p = true ∧ isCapital b = true)

/-- What the grammar asks of a character, asked of the byte of an ASCII character. -/
theorem grammar_charOf : ∀ b : UInt8, b < 0x80 →
    (isLetter (charOf b) = true ∨ isDigit (charOf b) = true ↔
      isCapital b = true ∨ isSmall b = true ∨ isNumeral b = true) ∧
    ((isLetter (charOf b) = true → toUpper (charOf b) = charOf b) ↔ isSmall b = false) ∧
    ((isLetter (charOf b) = true →
      isUpper (charOf b) = false ∨ toLower (charOf b) = charOf b) ↔ isCapital b = false) :=
  Bytes.forall_byte (by decide +kernel)

theorem asciiTypeGrammar_iff {name : Bytes} (h : ∀ b ∈ name, b < 0x80) :
    AsciiTypeGrammar name ↔ name ≠ [] ∧ TypeGrammar (name.map charOf) := by
  have hdigits : ((name.map charOf).IsChain fun d c =>
      isDigit d = true → isLetter c = true → toUpper c = c) ↔
      name.IsChain fun d b => isNumeral d = true → isSmall b = false := by
    rw [List.isChain_map]
    apply List.IsChain.iff_of_mem_imp
    intro d b hd hb
    rw [(charOf_facts d (h d hd)).2.2.1, (grammar_charOf b (h b hb)).2.1]
  have hcapitals : ((name.map charOf).IsChain fun p c =>
      isUpper p = true → isLetter c = true → isUpper c = false ∨ toLower c = c) ↔
      name.IsChain fun p b => ¬ (isCapital p = true ∧ isCapital b = true) := by
    rw [List.isChain_map]
    apply List.IsChain.iff_of_mem_imp
    intro p b hp hb
    rw [(charOf_facts p (h p hp)).1, (grammar_charOf b (h b hb)).2.2, not_and, Bool.not_eq_true]
  have hhead : ∀ b ∈ name.head?, b < 0x80 := fun b hb => h b (List.mem_of_mem_head? hb)
  constructor
  · intro hname
    refine ⟨hname.nonempty, ?_, ?_, hdigits.mpr hname.behindDigit,
      hcapitals.mpr hname.behindCapital⟩
    · refine List.forall_mem_map.mpr ?_
      intro b hb
      exact (grammar_charOf b (h b hb)).1.mpr (hname.bytes b hb)
    · intro c hc
      rw [List.head?_map] at hc
      obtain ⟨b, hb, rfl⟩ := Option.map_eq_some_iff.mp hc
      exact (grammar_charOf b (hhead b hb)).2.1.mpr (hname.start b hb)
  · rintro ⟨hne, hname⟩
    refine ⟨hne, ?_, ?_, hdigits.mp hname.behindDigit, hcapitals.mp hname.behindCapital⟩
    · intro b hb
      exact (grammar_charOf b (h b hb)).1.mp (hname.chars _ (List.mem_map_of_mem hb))
    · intro b hb
      refine (grammar_charOf b (hhead b hb)).2.1.mp (hname.start (charOf b) ?_)
      rw [List.head?_map, hb]
      rfl

/-! ## Eligible names -/

/-- The names that get a method, place by place: valid text of letters and digits in which a letter
at the start or behind a digit is as large as it can be and a letter behind a capital is not a
capital that could be small.  Of the ASCII names these are the ones without a small letter at the
start or behind a digit and without two capitals side by side. -/
theorem isTypeStyle_iff_grammar (name : Bytes) :
    (isTypeStyle name = true ↔
      name ≠ [] ∧ Utf8.isValid name = true ∧ TypeGrammar (Utf8.runes name)) ∧
    (isAscii name = true → (isTypeStyle name = true ↔ AsciiTypeGrammar name)) := by
  have hgrammar : isTypeStyle name = true ↔
      name ≠ [] ∧ Utf8.isValid name = true ∧ TypeGrammar (Utf8.runes name) := by
    rw [isTypeStyle_iff_cased, typeGrammar_iff]
  refine ⟨hgrammar, ?_⟩
  intro hascii
  have hlt := forall_lt_of_isAscii hascii
  have hrunes : Utf8.runes name = name.map charOf := Utf8.runes_ascii hlt
  rw [hgrammar, asciiTypeGrammar_iff hlt, Utf8.isValid_ascii hlt, hrunes]
  simp

/-- A capital behind each digit, with another digit or a small letter behind it. -/
theorem isTypeStyle_iff_grammar_digits :
    let name : Bytes := "Get3D2Name"
    isAscii name = true ∧ isTypeStyle name = true ∧ AsciiTypeGrammar name := by
  intro name
  have hascii : isAscii name = true := by decide
  have hstyle : isTypeStyle name = true := by decide +kernel
  exact ⟨hascii, hstyle, ((isTypeStyle_iff_grammar name).2 hascii).mp hstyle⟩

end RpcBindings.Name
