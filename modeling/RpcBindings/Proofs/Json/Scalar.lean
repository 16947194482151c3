import RpcBindings.Json.Reader

/-!
# Blanks, strings and numbers of JSON

The grammar of what a JSON text is made of besides arrays and objects, said without a reader, and
the readers measured against it.  Each reader is *sound*: what it takes off the front of a text is
in the grammar and means what the reader returns.  Each is *complete*: in front of a proper end it
takes exactly what the grammar derives.

A string is closed by its quote, so any text may follow it.  A number is closed by nothing but the
first byte that cannot go on it, so its completeness asks what comes next.
-/

set_option autoImplicit false

namespace RpcBindings.Json

/-! ## Blanks -/

/-- Nothing but blanks. -/
def Blanks (bs : Bytes) : Prop := ∀ b ∈ bs, isBlank b = true

theorem skipBlanks_append {w : Bytes} (hw : Blanks w) (bs : Bytes) :
    skipBlanks (w ++ bs) = skipBlanks bs := by
  induction w with
  | nil => rfl
  | cons b w ih =>
      have hb : isBlank b = true := hw b (by simp)
      have hrest : Blanks w := fun c hc => hw c (by simp [hc])
      simpa [skipBlanks, hb] using ih hrest

theorem skipBlanks_cons {b : UInt8} (hb : isBlank b = false) (bs : Bytes) :
    skipBlanks (b :: bs) = b :: bs := by
  simp [skipBlanks, hb]

/-- What `skipBlanks` takes away are blanks. -/
theorem exists_blanks (bs : Bytes) : ∃ w, Blanks w ∧ bs = w ++ skipBlanks bs := by
  refine ⟨bs.takeWhile isBlank, ?_, (List.takeWhile_append_dropWhile).symm⟩
  intro b hb
  exact (List.all_eq_true.mp (List.all_takeWhile)) b hb

theorem skipBlanks_eq_nil {bs : Bytes} (h : skipBlanks bs = []) : Blanks bs := by
  obtain ⟨w, hw, hbs⟩ := exists_blanks bs
  rw [h, List.append_nil] at hbs
  exact hbs ▸ hw

/-! ## Strings -/

/-- The bytes between the quotes of a string, and the parts that they spell. -/
inductive SpellsParts : Bytes → List Part → Prop where
  | nil : SpellsParts [] []
  /-- A byte that is no quote, no backslash and no control byte stands for itself. -/
  | plain {b : UInt8} {bs : Bytes} {ps : List Part} :
      b ≠ 0x22 → b ≠ 0x5C → 0x20 ≤ b → SpellsParts bs ps → SpellsParts (b :: bs) (.byte b :: ps)
  /-- A backslash and a letter. -/
  | letter {e c : UInt8} {bs : Bytes} {ps : List Part} :
      escaped? e = some c → SpellsParts bs ps → SpellsParts (0x5C :: e :: bs) (.byte c :: ps)
  /-- A backslash, a `u` and four hexadecimal digits. -/
  | unit {h₁ h₂ h₃ h₄ : UInt8} {n : Nat} {bs : Bytes} {ps : List Part} :
      hexUnit? h₁ h₂ h₃ h₄ = some n → SpellsParts bs ps →
      SpellsParts (0x5C :: 0x75 :: h₁ :: h₂ :: h₃ :: h₄ :: bs) (.unit n :: ps)

theorem consPart_eq_some {p : Part} {read : Option (List Part × Bytes)} {ps : List Part}
    {r : Bytes} (h : consPart p read = some (ps, r)) :
    ∃ qs, read = some (qs, r) ∧ ps = p :: qs := by
  cases read with
  | none => simp [consPart] at h
  | some q =>
      obtain ⟨qs, rest⟩ := q
      simp only [consPart, Option.some.injEq, Prod.mk.injEq] at h
      exact ⟨qs, by rw [h.2], h.1.symm⟩

theorem readParts_sound {bs : Bytes} {ps : List Part} {r : Bytes}
    (h : readParts bs = some (ps, r)) : ∃ b, bs = b ++ 0x22 :: r ∧ SpellsParts b ps := by
  fun_induction readParts bs generalizing ps with
  | case1 => simp at h
  | case2 rest =>
      simp only [Option.some.injEq, Prod.mk.injEq] at h
      exact ⟨[], by simp [h.2], h.1 ▸ .nil⟩
  | case3 => simp at h
  | case4 h₁ h₂ h₃ h₄ rest n hn _ ih =>
      obtain ⟨qs, hread, rfl⟩ := consPart_eq_some h
      obtain ⟨b, rfl, hb⟩ := ih hread
      exact ⟨0x5C :: 0x75 :: h₁ :: h₂ :: h₃ :: h₄ :: b, rfl, .unit hn hb⟩
  | case5 => simp at h
  | case6 => simp at h
  | case7 e rest _ c hc _ ih =>
      obtain ⟨qs, hread, rfl⟩ := consPart_eq_some h
      obtain ⟨b, rfl, hb⟩ := ih hread
      exact ⟨0x5C :: e :: b, rfl, .letter hc hb⟩
  | case8 => simp at h
  | case9 => simp at h
  | case10 c rest hquote hslash hcontrol ih =>
      obtain ⟨qs, hread, rfl⟩ := consPart_eq_some h
      obtain ⟨b, rfl, hb⟩ := ih hread
      exact ⟨c :: b, rfl, .plain hquote hslash (UInt8.not_lt.mp hcontrol) hb⟩

theorem readParts_complete {b : Bytes} {ps : List Part} (h : SpellsParts b ps) (r : Bytes) :
    readParts (b ++ 0x22 :: r) = some (ps, r) := by
  induction h with
  | nil =>
      rw [List.nil_append, readParts.eq_def]
      simp
  | plain hquote hslash hcontrol _ ih =>
      have hnot := UInt8.not_lt.mpr hcontrol
      rw [List.cons_append, readParts.eq_def]
      simp [hquote, hslash, hnot, ih, consPart]
  | @letter e c bs ps hc _ ih =>
      -- The letter of a code unit is none of the letters that stand for one byte.
      have hu : e ≠ 0x75 := by
        rintro rfl
        simp [escaped?] at hc
      rw [List.cons_append, List.cons_append, readParts.eq_def]
      simp [hu, hc, ih, consPart]
  | unit hn _ ih =>
      simp only [List.cons_append]
      rw [readParts.eq_def]
      simp [hn, ih, consPart]

theorem readString_sound {bs text r : Bytes} (h : readString bs = some (text, r)) :
    ∃ b ps, bs = b ++ 0x22 :: r ∧ SpellsParts b ps ∧ text = unescape ps := by
  unfold readString at h
  split at h
  · rename_i ps rest hread
    simp only [Option.some.injEq, Prod.mk.injEq] at h
    obtain ⟨b, hb, hps⟩ := readParts_sound hread
    exact ⟨b, ps, h.2 ▸ hb, hps, h.1.symm⟩
  · simp at h

theorem readString_complete {b : Bytes} {ps : List Part} (h : SpellsParts b ps) (r : Bytes) :
    readString (b ++ 0x22 :: r) = some (unescape ps, r) := by
  simp [readString, readParts_complete h r]

/-! ## Numbers -/

/-- One digit or more. -/
def Digits (ds : Bytes) : Prop := ds ≠ [] ∧ ∀ b ∈ ds, isDigit b = true

/-- A zero alone, or digits that do not start with one. -/
def IsInteger (ds : Bytes) : Prop := ds = [0x30] ∨ (Digits ds ∧ ds.head? ≠ some 0x30)

/-- Nothing, or a point with digits behind it. -/
def IsFraction (fs : Bytes) : Prop := fs = [] ∨ ∃ ds, Digits ds ∧ fs = 0x2E :: ds

/-- Nothing, a plus or a minus. -/
def IsSign (sign : Bytes) : Prop := sign = [] ∨ sign = [0x2B] ∨ sign = [0x2D]

/-- Nothing, or an exponent mark with an optional sign and digits. -/
def IsExponent (es : Bytes) : Prop :=
  es = [] ∨ ∃ mark sign ds, (mark = 0x65 ∨ mark = 0x45) ∧ IsSign sign ∧ Digits ds ∧
    es = mark :: (sign ++ ds)

/-- A number without its sign. -/
def IsUnsigned (bs : Bytes) : Prop :=
  ∃ i f e, IsInteger i ∧ IsFraction f ∧ IsExponent e ∧ bs = i ++ f ++ e

/-- The spelling of a number. -/
def IsNumber (bs : Bytes) : Prop := IsUnsigned bs ∨ ∃ rest, IsUnsigned rest ∧ bs = 0x2D :: rest

/-- No number goes on here. -/
def Ends (r : Bytes) : Prop :=
  ∀ b ∈ r.head?, isDigit b = false ∧ b ≠ 0x2E ∧ b ≠ 0x65 ∧ b ≠ 0x45

theorem readDigits_sound {bs ds r : Bytes} (h : readDigits bs = some (ds, r)) :
    bs = ds ++ r ∧ Digits ds := by
  unfold readDigits at h
  split at h
  · simp at h
  · rename_i hne
    simp only [Option.some.injEq, Prod.mk.injEq] at h
    obtain ⟨hds, hr⟩ := h
    subst hds hr
    refine ⟨List.takeWhile_append_dropWhile.symm, hne, ?_⟩
    intro b hb
    exact (List.all_eq_true.mp (List.all_takeWhile)) b hb

theorem readDigits_complete {ds r : Bytes} (h : Digits ds)
    (hr : ∀ b ∈ r.head?, isDigit b = false) : readDigits (ds ++ r) = some (ds, r) := by
  have hstop : r.takeWhile isDigit = [] ∧ r.dropWhile isDigit = r := by
    cases r with
    | nil => simp
    | cons b r => simp [hr b (by simp)]
  have htake : (ds ++ r).takeWhile isDigit = ds := by
    rw [List.takeWhile_append_of_pos h.2, hstop.1, List.append_nil]
  have hdrop : (ds ++ r).dropWhile isDigit = r := by
    rw [List.dropWhile_append_of_pos h.2, hstop.2]
  unfold readDigits
  rw [htake, hdrop]
  cases ds with
  | nil => exact absurd rfl h.1
  | cons d ds => rfl

theorem readInteger_sound {bs ds r : Bytes} (h : readInteger bs = some (ds, r)) :
    bs = ds ++ r ∧ IsInteger ds := by
  unfold readInteger at h
  split at h
  · simp only [Option.some.injEq, Prod.mk.injEq] at h
    exact ⟨by rw [← h.1, ← h.2]; rfl, .inl h.1.symm⟩
  · rename_i hzero
    obtain ⟨hbs, hds⟩ := readDigits_sound h
    refine ⟨hbs, .inr ⟨hds, ?_⟩⟩
    intro hhead
    cases ds with
    | nil => simp at hhead
    | cons d ds =>
        obtain rfl : d = 0x30 := by simpa using hhead
        exact hzero (ds ++ r) hbs

theorem readInteger_complete {ds r : Bytes} (h : IsInteger ds)
    (hr : ∀ b ∈ r.head?, isDigit b = false) : readInteger (ds ++ r) = some (ds, r) := by
  obtain rfl | ⟨hds, hhead⟩ := h
  · rfl
  · unfold readInteger
    split
    · rename_i rest heq
      cases ds with
      | nil => exact absurd rfl hds.1
      | cons d ds =>
          obtain rfl : d = 0x30 := (List.cons.inj heq).1
          simp at hhead
    · exact readDigits_complete hds hr

theorem readFraction_sound {bs fs r : Bytes} (h : readFraction bs = some (fs, r)) :
    bs = fs ++ r ∧ IsFraction fs := by
  unfold readFraction at h
  split at h
  · split at h
    · rename_i digits rest hread
      simp only [Option.some.injEq, Prod.mk.injEq] at h
      obtain ⟨hbs, hds⟩ := readDigits_sound hread
      exact ⟨by rw [← h.1, ← h.2, hbs]; rfl, .inr ⟨digits, hds, h.1.symm⟩⟩
    · simp at h
  · simp only [Option.some.injEq, Prod.mk.injEq] at h
    exact ⟨by rw [← h.1, ← h.2]; rfl, .inl h.1.symm⟩

theorem readFraction_complete {fs r : Bytes} (h : IsFraction fs)
    (hr : ∀ b ∈ r.head?, isDigit b = false ∧ b ≠ 0x2E) :
    readFraction (fs ++ r) = some (fs, r) := by
  obtain rfl | ⟨ds, hds, rfl⟩ := h
  · unfold readFraction
    split
    · rename_i rest heq
      have hr' : r = 0x2E :: rest := heq
      exact absurd rfl (hr 0x2E (by simp [hr'])).2
    · rfl
  · simp [readFraction, readDigits_complete hds fun b hb => (hr b hb).1]

theorem readSign_append (bs : Bytes) :
    bs = (readSign bs).1 ++ (readSign bs).2 ∧ IsSign (readSign bs).1 := by
  unfold readSign
  split <;> simp [IsSign]

theorem readSign_complete {sign ds r : Bytes} (h : IsSign sign) (hds : Digits ds) :
    readSign (sign ++ (ds ++ r)) = (sign, ds ++ r) := by
  obtain rfl | rfl | rfl := h
  · cases ds with
    | nil => exact absurd rfl hds.1
    | cons d ds =>
        have hd : isDigit d = true := hds.2 d (by simp)
        rw [List.nil_append, List.cons_append]
        unfold readSign
        split
        · rename_i heq
          rw [(List.cons.inj heq).1] at hd
          exact absurd hd (by decide)
        · rename_i heq
          rw [(List.cons.inj heq).1] at hd
          exact absurd hd (by decide)
        · rfl
  · rfl
  · rfl

theorem readExponent_sound {bs es r : Bytes} (h : readExponent bs = some (es, r)) :
    bs = es ++ r ∧ IsExponent es := by
  unfold readExponent at h
  split at h
  · simp only [Option.some.injEq, Prod.mk.injEq] at h
    exact ⟨by rw [← h.1, ← h.2]; rfl, .inl h.1.symm⟩
  · rename_i mark rest
    split at h
    · rename_i hmark
      obtain ⟨hrest, hsign⟩ := readSign_append rest
      generalize readSign rest = signed at h hrest hsign
      obtain ⟨sign, tail⟩ := signed
      simp only at h hrest hsign
      split at h
      · rename_i digits rest' hread
        simp only [Option.some.injEq, Prod.mk.injEq] at h
        obtain ⟨rfl, hds⟩ := readDigits_sound hread
        refine ⟨?_, .inr ⟨mark, sign, digits, hmark, hsign, hds, h.1.symm⟩⟩
        rw [← h.1, ← h.2, hrest]
        simp
      · simp at h
    · simp only [Option.some.injEq, Prod.mk.injEq] at h
      exact ⟨by rw [← h.1, ← h.2]; rfl, .inl h.1.symm⟩

theorem readExponent_complete {es r : Bytes} (h : IsExponent es) (hr : Ends r) :
    readExponent (es ++ r) = some (es, r) := by
  obtain rfl | ⟨mark, sign, ds, hmark, hsign, hds, rfl⟩ := h
  · cases r with
    | nil => rfl
    | cons b r =>
        obtain ⟨_, _, he, hE⟩ := hr b (by simp)
        simp [readExponent, he, hE]
  · have hread := readDigits_complete hds fun b hb => (hr b hb).1
    simp only [List.cons_append, List.append_assoc, readExponent, hmark, if_true,
      readSign_complete hsign hds, hread]

theorem readUnsigned_sound {bs ns r : Bytes} (h : readUnsigned bs = some (ns, r)) :
    bs = ns ++ r ∧ IsUnsigned ns := by
  unfold readUnsigned at h
  split at h
  · simp at h
  · rename_i i bs₁ hi
    split at h
    · simp at h
    · rename_i f bs₂ hf
      split at h
      · simp at h
      · rename_i e rest he
        simp only [Option.some.injEq, Prod.mk.injEq] at h
        obtain ⟨hbs, hint⟩ := readInteger_sound hi
        obtain ⟨hbs₁, hfrac⟩ := readFraction_sound hf
        obtain ⟨hbs₂, hexp⟩ := readExponent_sound he
        refine ⟨?_, i, f, e, hint, hfrac, hexp, h.1.symm⟩
        rw [hbs, hbs₁, hbs₂, ← h.1, ← h.2]
        simp

/-- An exponent, and what ends a number behind it, neither goes on digits nor starts a fraction. -/
theorem IsExponent.head {es r : Bytes} (h : IsExponent es) (hr : Ends r) :
    ∀ b ∈ (es ++ r).head?, isDigit b = false ∧ b ≠ 0x2E := by
  intro b hb
  obtain rfl | ⟨mark, sign, ds, hmark, _, _, rfl⟩ := h
  · exact ⟨(hr b hb).1, (hr b hb).2.1⟩
  · obtain rfl : mark = b := by simpa using hb
    obtain rfl | rfl := hmark <;> decide

theorem IsFraction.head {fs r : Bytes} (h : IsFraction fs)
    (hr : ∀ b ∈ r.head?, isDigit b = false) : ∀ b ∈ (fs ++ r).head?, isDigit b = false := by
  intro b hb
  obtain rfl | ⟨ds, _, rfl⟩ := h
  · exact hr b hb
  · obtain rfl : 0x2E = b := by simpa using hb
    decide

theorem readUnsigned_complete {ns r : Bytes} (h : IsUnsigned ns) (hr : Ends r) :
    readUnsigned (ns ++ r) = some (ns, r) := by
  obtain ⟨i, f, e, hint, hfrac, hexp, rfl⟩ := h
  have hi : readInteger (i ++ (f ++ (e ++ r))) = some (i, f ++ (e ++ r)) :=
    readInteger_complete hint (hfrac.head fun b hb => (hexp.head hr b hb).1)
  have hf : readFraction (f ++ (e ++ r)) = some (f, e ++ r) :=
    readFraction_complete hfrac (hexp.head hr)
  simp only [List.append_assoc, readUnsigned, hi, hf, readExponent_complete hexp hr]

/-- A number without its sign starts with a digit. -/
theorem IsUnsigned.head {ns : Bytes} (h : IsUnsigned ns) :
    ∃ d rest, ns = d :: rest ∧ isDigit d = true := by
  obtain ⟨i, f, e, hint, _, _, rfl⟩ := h
  obtain rfl | ⟨⟨hne, hall⟩, _⟩ := hint
  · exact ⟨0x30, f ++ e, rfl, by decide⟩
  · cases i with
    | nil => exact absurd rfl hne
    | cons d i => exact ⟨d, i ++ f ++ e, rfl, hall d (by simp)⟩

theorem readNumber_sound {bs ns r : Bytes} (h : readNumber bs = some (ns, r)) :
    bs = ns ++ r ∧ IsNumber ns := by
  unfold readNumber at h
  split at h
  · split at h
    · rename_i spelling rest hread
      simp only [Option.some.injEq, Prod.mk.injEq] at h
      obtain ⟨hbs, hns⟩ := readUnsigned_sound hread
      exact ⟨by rw [hbs, ← h.1, ← h.2]; rfl, .inr ⟨spelling, hns, h.1.symm⟩⟩
    · simp at h
  · obtain ⟨hbs, hns⟩ := readUnsigned_sound h
    exact ⟨hbs, .inl hns⟩

theorem readNumber_complete {ns r : Bytes} (h : IsNumber ns) (hr : Ends r) :
    readNumber (ns ++ r) = some (ns, r) := by
  obtain hns | ⟨rest, hrest, rfl⟩ := h
  · unfold readNumber
    split
    · rename_i rest heq
      obtain ⟨d, tail, rfl, hd⟩ := hns.head
      rw [(List.cons.inj heq).1] at hd
      exact absurd hd (by decide)
    · exact readUnsigned_complete hns hr
  · simp [readNumber, readUnsigned_complete hrest hr]

end RpcBindings.Json
