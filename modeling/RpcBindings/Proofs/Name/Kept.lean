import RpcBindings.Proofs.Name.Seams

/-!
# Letters and digits are kept (SPEC §4.1)

No letter and no digit of a name is lost when the name is cased.  Separating a name takes away blanks
at its ends and turns into underscores what is neither letter nor digit; so what is left besides
underscores are the letters and digits of the name.  Snake case lowers them and adds underscores to
those that are there.  Camel case takes the underscores away and writes each letter in one of its cases.
-/

set_option autoImplicit false

namespace RpcBindings.Name

open Text (isLetter isUpper isDigit toUpper toLower)

/-! ## Underscores -/

/-- The text without its underscores. -/
def withoutLines (bs : Bytes) : Bytes := bs.filter (· ≠ 0x5F)

/-- The characters besides underscores. -/
def wordChars (cs : List Char) : List Char := cs.filter (· ≠ '_')

theorem wordChars_line_cons (cs : List Char) : wordChars ('_' :: cs) = wordChars cs := rfl

theorem wordChars_cons {c : Char} (h : c ≠ '_') (cs : List Char) :
    wordChars (c :: cs) = c :: wordChars cs :=
  List.filter_cons_of_pos (by simpa using h)

theorem filter_utf8EncodeChar {c : Char} (h : c ≠ '_') :
    (String.utf8EncodeChar c).filter (· ≠ 0x5F) = String.utf8EncodeChar c := by
  rw [List.filter_eq_self]
  intro b hb
  refine decide_eq_true ?_
  rintro rfl
  exact Utf8.not_mem_utf8EncodeChar (by decide) h hb

theorem withoutLines_encode (cs : List Char) :
    withoutLines (Utf8.encode cs) = Utf8.encode (wordChars cs) := by
  unfold withoutLines
  induction cs with
  | nil => rfl
  | cons c cs ih =>
      rw [Utf8.encode_cons, List.filter_append, ih]
      by_cases hline : c = '_'
      · subst hline
        rfl
      · rw [filter_utf8EncodeChar hline, wordChars_cons hline, Utf8.encode_cons]

/-! ## Separating -/

/-- Dropping characters from the front that do not count leaves those that do. -/
theorem filter_dropWhile {p q : Char → Bool} (h : ∀ c, p c = true → q c = false) (cs : List Char) :
    (cs.dropWhile q).filter p = cs.filter p := by
  induction cs with
  | nil => rfl
  | cons c cs ih =>
      rw [List.dropWhile_cons]
      split_ifs with hc
      · have hp : p c = false := by
          rw [Bool.eq_false_iff]
          intro hp
          rw [h c hp] at hc
          cases hc
        rw [ih, List.filter_cons_of_neg (by simp [hp])]
      · rfl

/-- The character is a letter or a digit. -/
def counts (c : Char) : Bool := isLetter c || isDigit c

theorem filter_counts_trimRunes (cs : List Char) :
    (trimRunes cs).filter counts = cs.filter counts := by
  have hblank : ∀ c, counts c = true → Text.isBlank c = false := by
    intro c hc
    rcases Bool.or_eq_true_iff.mp hc with hletter | hdigit
    · exact Text.isBlank_of_isLetter hletter
    · exact Text.isBlank_of_isDigit hdigit
  rw [trimRunes, List.filter_reverse, filter_dropWhile hblank, List.filter_reverse,
    List.reverse_reverse, filter_dropWhile hblank]

theorem ne_line_of_counts {c : Char} (h : counts c = true) : c ≠ '_' := by
  rcases Bool.or_eq_true_iff.mp h with hletter | hdigit
  · exact ne_line_of_isLetter hletter
  · exact ne_line_of_isDigit hdigit

theorem counts_iff {c : Char} (h : isWordChar c = true) : counts c = true ↔ c ≠ '_' := by
  constructor
  · exact ne_line_of_counts
  · intro hline
    rcases isWordChar_iff.mp h with hc | hletter | hdigit
    · exact absurd hc hline
    · exact Bool.or_eq_true_iff.mpr (.inl hletter)
    · exact Bool.or_eq_true_iff.mpr (.inr hdigit)

theorem separateChar_cases (c : Char) :
    (counts c = true ∧ separateChar c = c) ∨ (counts c = false ∧ separateChar c = '_') := by
  cases hcounts : counts c with
  | true =>
      have hword : isWordChar c = true := by
        rw [isWordChar, Bool.or_assoc]
        exact Bool.or_eq_true_iff.mpr (.inr hcounts)
      exact .inl ⟨rfl, if_pos hword⟩
  | false =>
      refine .inr ⟨rfl, ?_⟩
      unfold separateChar
      split_ifs with hword
      · by_contra hline
        rw [(counts_iff hword).mpr hline] at hcounts
        cases hcounts
      · rfl

/-- Besides underscores, a separated name has the letters and digits of the name. -/
theorem wordChars_separateRunes (cs : List Char) :
    wordChars (separateRunes cs) = cs.filter counts := by
  rw [separateRunes, ← filter_counts_trimRunes]
  induction trimRunes cs with
  | nil => rfl
  | cons c cs ih =>
      obtain ⟨hcounts, hchar⟩ | ⟨hcounts, hchar⟩ := separateChar_cases c
      · rw [List.map_cons, hchar, wordChars_cons (ne_line_of_counts hcounts), ih,
          List.filter_cons_of_pos hcounts]
      · rw [List.map_cons, hchar, wordChars_line_cons, ih,
          List.filter_cons_of_neg (by simp [hcounts])]

/-! ## Snake case -/

/-- Snake case only adds to the lowered characters. -/
theorem sublist_spell (cs : List Char) : (cs.map toLower).Sublist (spell cs) := by
  fun_induction spell cs with
  | case1 => exact .refl _
  | case2 c => exact .refl _
  | case3 c d rest _ ih => exact (ih.cons '_').cons_cons (toLower c)
  | case4 c d rest _ ih => exact ih.cons_cons (toLower c)

theorem toLower_eq_line_iff {c : Char} (h : isWordChar c = true) : toLower c = '_' ↔ c = '_' := by
  constructor
  · intro hlower
    by_contra hline
    rcases Bool.or_eq_true_iff.mp ((counts_iff h).mpr hline) with hletter | hdigit
    · exact ne_line_of_isLetter (Text.isLetter_toLower hletter) hlower
    · exact hline (Text.toLower_of_isDigit hdigit ▸ hlower)
  · rintro rfl
    exact toLower_line

theorem wordChars_cons_lower {c : Char} (h : isWordChar c = true) {cs ds : List Char}
    (hds : wordChars ds = (wordChars cs).map toLower) :
    wordChars (toLower c :: ds) = (wordChars (c :: cs)).map toLower := by
  by_cases hline : c = '_'
  · rw [hline, toLower_line, wordChars_line_cons, wordChars_line_cons, hds]
  · rw [wordChars_cons hline, wordChars_cons (mt (toLower_eq_line_iff h).mp hline), hds, List.map_cons]

/-- What snake case adds are underscores. -/
theorem wordChars_spell {cs : List Char} (h : ∀ c ∈ cs, isWordChar c = true) :
    wordChars (spell cs) = (wordChars cs).map toLower := by
  fun_induction spell cs with
  | case1 => rfl
  | case2 c => exact wordChars_cons_lower (h c (by simp)) rfl
  | case3 c d rest _ ih =>
      have hrest := ih fun e he => h e (by simp [he])
      exact wordChars_cons_lower (h c (by simp)) ((wordChars_line_cons _).trans hrest)
  | case4 c d rest _ ih =>
      exact wordChars_cons_lower (h c (by simp)) (ih fun e he => h e (by simp [he]))

/-! ## Camel case -/

/-- What a letter or a digit may be written as: a digit as it is, and a letter in one of its cases. -/
def Recased (c out : Char) : Prop :=
  (isDigit c = true → out = c) ∧
    (out = c ∨ out = toUpper c ∨ out = toLower c ∨ out = toLower (toUpper c))

theorem recased_camelChar {c : Char} (h : isLetter c = true) (raise prevCap prevUpper : Bool) :
    Recased c (camelChar raise prevCap prevUpper c) := by
  refine ⟨by simp [Text.isDigit_of_isLetter h], ?_⟩
  have htwice := Text.toLower_toLower h
  unfold camelChar
  simp only
  split_ifs <;> simp [htwice]

/-- Camel case writes one character for each that is no underscore. -/
theorem forall₂_camelFrom {cs : List Char} (h : ∀ c ∈ cs, isWordChar c = true)
    (raise prevCap prevUpper : Bool) :
    List.Forall₂ Recased (wordChars cs) (camelFrom raise prevCap prevUpper cs) := by
  induction cs generalizing raise prevCap prevUpper with
  | nil => exact .nil
  | cons c cs ih =>
      have hcs : ∀ d ∈ cs, isWordChar d = true := fun d hd => h d (by simp [hd])
      rw [camelFrom]
      split_ifs with hline hdigit
      · rw [hline, wordChars_line_cons]
        exact ih hcs _ _ _
      · rw [wordChars_cons hline]
        exact .cons ⟨fun _ => rfl, .inl rfl⟩ (ih hcs _ _ _)
      · have hletter : isLetter c = true := by
          rcases isWordChar_iff.mp (h c (by simp)) with hc | hc | hc
          · exact absurd hc hline
          · exact hc
          · exact absurd hc hdigit
        rw [wordChars_cons hline]
        exact .cons (recased_camelChar hletter _ _ _) (ih hcs _ _ _)

/-! ## Both styles -/

/-- Casing loses no letter and no digit.  What a separated name has besides underscores are the letters
and digits of the name.  Member style without underscores is these, lowered; with them it is the
separated name, lowered, and more underscores.  Type style has a character for each of them, which is
the same, or for a letter another case of it. -/
theorem casing_keeps_letters_and_digits (name : Bytes) :
    let w := withoutLines (separate name)
    Utf8.runes w = (Utf8.runes name).filter (fun c => isLetter c || isDigit c) ∧
    withoutLines (memberStyle name) = Utf8.encode ((Utf8.runes w).map toLower) ∧
    ((Utf8.runes (separate name)).map toLower).Sublist (Utf8.runes (memberStyle name)) ∧
    List.Forall₂ Recased (Utf8.runes w) (Utf8.runes (typeStyle name)) := by
  intro w
  have hw : Utf8.runes w = wordChars (separateRunes (Utf8.runes name)) := by
    simp only [w, separate, withoutLines_encode, Utf8.runes_encode]
  have hword : ∀ c ∈ separateRunes (Utf8.runes name), isWordChar c = true :=
    isWordChar_of_mem_separateRunes
  refine ⟨hw.trans (wordChars_separateRunes _), ?_, ?_, ?_⟩
  · rw [memberStyle_eq_encode, withoutLines_encode, wordChars_spell hword, hw]
  · rw [memberStyle_eq_encode, separate, Utf8.runes_encode, Utf8.runes_encode]
    exact sublist_spell _
  · rw [hw, typeStyle_eq_encode, Utf8.runes_encode]
    exact forall₂_camelFrom hword true false false

end RpcBindings.Name
