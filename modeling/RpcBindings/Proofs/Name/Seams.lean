import RpcBindings.Proofs.Name.TypeGrammar

/-!
# Member style a second time (SPEC §4.1)

Snake case looks for the ends of words in a name as it is spelled, and lowers the letters
afterwards.  Rendering the result again looks at the lowered letters.  For most names that makes no
difference.  But a letter in title case has a small letter and is neither capital nor small itself,
and some capitals have no small letter and stay capitals among lowered letters.  Next to such a
letter the end of a word may be hidden at first and be seen the second time.

What matters about a character is only its case, so the two passes are compared on six classes of
characters.  The comparison says exactly which names change when they are rendered again, and that
no name changes after that.
-/

set_option autoImplicit false

namespace RpcBindings.Name

open Text (isLetter isUpper isLower isDigit toLower)

/-! ## Classes of characters -/

/-- What a character is to snake case. -/
inductive CaseClass where
  /-- A capital that has no small letter. -/
  | firm
  /-- A capital that has a small letter. -/
  | capital
  /-- A letter in title case: no capital, but with a small letter. -/
  | title
  | small
  | digit
  /-- A letter without a case, or an underscore. -/
  | other
  deriving DecidableEq, Repr, Inhabited

namespace CaseClass

def isCapital : CaseClass → Bool
  | firm | capital => true
  | _ => false

/-- The class of the lowered character. -/
def lowered : CaseClass → CaseClass
  | capital | title => small
  | k => k

/-- A word ends between two characters, whatever follows. -/
def changes (k l : CaseClass) : Bool :=
  (k.isCapital && l == digit) || (k == small && (l.isCapital || l == digit)) ||
    (k == digit && (l.isCapital || l == small))

/-- A word ends between two characters when `next` follows: also before the last of several capitals
that a small letter follows. -/
def seam (k l : CaseClass) (next : Option CaseClass) : Bool :=
  changes k l || (k.isCapital && l.isCapital && next == some small)

/-- What the second pass finds behind a character, where the first found `next` and then `later`: an
underscore if there was a seam, else the character lowered. -/
def seen (k : CaseClass) (next later : Option CaseClass) : Option CaseClass :=
  next.map fun l => if k.seam l later then other else l.lowered

/-- Between two characters there is no seam, but one is seen once they are lowered. -/
def hides (k l : CaseClass) (next later : Option CaseClass) : Bool :=
  !k.seam l next && k.lowered.seam l.lowered (l.seen next later)

/-- Behind a capital without a small letter, the second pass finds a small letter where there was a
letter that has one, unless a word starts with it. -/
theorem firm_seen_eq_small_iff {next later : Option CaseClass} :
    firm.seen next later = some small ↔
      next = some small ∨ next = some title ∨ (next = some capital ∧ later ≠ some small) := by
  cases next with
  | none => simp [seen]
  | some m =>
      cases m with
      | firm =>
          simp only [seen, Option.map_some, lowered]
          split_ifs <;> simp
      | _ => simp [seen, seam, changes, isCapital, lowered]

/-- Which neighbours hide a seam. -/
theorem hides_iff {k l : CaseClass} {next later : Option CaseClass} :
    k.hides l next later = true ↔
      (k = title ∧ (l = digit ∨ l = firm)) ∨ (k = digit ∧ l = title) ∨
      (k = capital ∧ l = firm ∧ next ≠ some small) ∨
      (k = firm ∧ l = firm ∧
        (next = some title ∨ (next = some capital ∧ later ≠ some small))) := by
  by_cases hfirm : k = firm ∧ l = firm
  · obtain ⟨rfl, rfl⟩ := hfirm
    have hhides : hides firm firm next later = true ↔
        next ≠ some small ∧ firm.seen next later = some small := by
      simp [hides, seam, changes, isCapital, lowered]
    rw [hhides, firm_seen_eq_small_iff]
    grind
  · cases k <;> cases l <;> simp_all [hides, seam, changes, isCapital, lowered]

theorem seam_other (k : CaseClass) (next : Option CaseClass) : k.seam other next = false := by
  cases k <;> rfl

theorem other_seam (k : CaseClass) (next : Option CaseClass) : seam other k next = false := by
  cases k <;> rfl

end CaseClass

/-- The class of a character. -/
def classOf (c : Char) : CaseClass :=
  if isUpper c then if toLower c = c then .firm else .capital
  else if isLower c then .small
  else if isDigit c then .digit
  else if toLower c = c then .other
  else .title

theorem isUpper_eq (c : Char) : isUpper c = (classOf c).isCapital := by
  unfold classOf
  split_ifs <;> simp_all [CaseClass.isCapital]

theorem isLower_eq (c : Char) : isLower c = (classOf c == .small) := by
  unfold classOf
  split_ifs with hupper hfixed hlower
  · simp [Text.isLower_of_isUpper hupper]
  · simp [Text.isLower_of_isUpper hupper]
  · simp [hlower]
  all_goals simp_all

theorem isDigit_eq (c : Char) : isDigit c = (classOf c == .digit) := by
  unfold classOf
  split_ifs with hupper hfixed hlower hdigit
  · simp [Text.isDigit_of_isUpper hupper]
  · simp [Text.isDigit_of_isUpper hupper]
  · simp [Text.isDigit_of_isLower hlower]
  all_goals simp_all

theorem classOf_line : classOf '_' = .other := by decide

theorem classOf_of_isLower {c : Char} (h : isLower c = true) : classOf c = .small := by
  simpa [isLower_eq] using h

theorem toLower_line : toLower '_' = '_' := by decide

/-- Lowering does to characters of a name what it does to their classes. -/
theorem classOf_toLower {c : Char} (h : isWordChar c = true) :
    classOf (toLower c) = (classOf c).lowered := by
  rcases isWordChar_iff.mp h with rfl | hletter | hdigit
  · rw [toLower_line, classOf_line]
    rfl
  · rcases Text.toLower_cases hletter with hfixed | hlower
    · rw [hfixed]
      unfold classOf
      split_ifs <;> rfl
    · rw [classOf_of_isLower hlower]
      by_cases hfixed : toLower c = c
      · rw [hfixed] at hlower
        rw [classOf_of_isLower hlower]
        rfl
      · have hdigit := Text.isDigit_of_isLetter hletter
        unfold classOf
        split_ifs with hupper hsmall
        · rfl
        · rfl
        · simp_all
        · rfl
  · rw [Text.toLower_of_isDigit hdigit]
    have hclass : classOf c = .digit := by simpa [isDigit_eq] using hdigit
    rw [hclass]
    rfl

/-! ## Snake case by seams -/

/-- The lowered characters with an underscore at each seam. -/
def spell : List Char → List Char
  | [] => []
  | [c] => [toLower c]
  | c :: d :: rest =>
      if (classOf c).seam (classOf d) (rest.map classOf).head? then
        toLower c :: '_' :: spell (d :: rest)
      else toLower c :: spell (d :: rest)

theorem changes_eq (c d : Char) :
    changes c d = ((classOf c).changes (classOf d) ||
      ((classOf c).isCapital && classOf d == .small)) := by
  rw [changes]
  simp only [isUpper_eq, isLower_eq, isDigit_eq]
  cases classOf c <;> cases classOf d <;> rfl

/-- What is written for a character: an underscore in front where it is the last of several capitals
and a small letter follows, and one behind where a word ends whatever follows. -/
theorem snakeChar_eq (prevCap : Bool) (c d : Char) :
    snakeChar prevCap c (some d) =
      (if prevCap && (classOf c).isCapital && classOf d == .small then ['_'] else []) ++
        toLower c :: (if (classOf c).changes (classOf d) then ['_'] else []) := by
  simp only [snakeChar, changes_eq, isUpper_eq, isLower_eq, isDigit_eq]
  cases prevCap <;> cases classOf c <;> cases classOf d <;> rfl

/-- A word ends behind a character or before the next one, and never both: the next one would be a
capital behind a capital. -/
theorem seam_append (k l : CaseClass) (next : Option CaseClass) (cs : List Char) :
    (if k.changes l then ['_'] else []) ++
      ((if k.isCapital && l.isCapital && next == some .small then ['_'] else []) ++ cs) =
      if k.seam l next then '_' :: cs else cs := by
  rw [CaseClass.seam]
  cases hchanges : k.changes l with
  | true =>
      have hcapitals : (k.isCapital && l.isCapital) = false := by
        revert hchanges
        cases k <;> cases l <;> decide
      simp [hcapitals]
  | false => cases k.isCapital && l.isCapital && next == some CaseClass.small <;> rfl

/-- Snake case marks the seams; the one before the first character depends on what stood before. -/
theorem snakeFrom_eq_spell (prevCap : Bool) (c : Char) (cs : List Char) :
    snakeFrom prevCap (c :: cs) =
      (if prevCap && (classOf c).isCapital && (cs.map classOf).head? == some .small then ['_']
        else []) ++ spell (c :: cs) := by
  induction cs generalizing prevCap c with
  | nil => simp [snakeFrom, snakeChar, spell]
  | cons d rest ih =>
      rw [snakeFrom, List.head?_cons, snakeChar_eq, ih, isUpper_eq, List.append_assoc,
        List.cons_append, seam_append, spell, List.map_cons, List.head?_cons, Option.some_beq_some]
      split_ifs <;> rfl

theorem snake_eq_spell (cs : List Char) : snake cs = spell cs := by
  cases cs with
  | nil => rfl
  | cons c cs =>
      rw [snake, snakeFrom_eq_spell]
      rfl

/-! ## The second pass -/

theorem toLower_toLower_of_isWordChar {c : Char} (h : isWordChar c = true) :
    toLower (toLower c) = toLower c := by
  rcases isWordChar_iff.mp h with rfl | hletter | hdigit
  · rw [toLower_line, toLower_line]
  · exact Text.toLower_toLower hletter
  · rw [Text.toLower_of_isDigit hdigit, Text.toLower_of_isDigit hdigit]

/-- No two neighbours hide a seam. -/
def isSettled : List CaseClass → Bool
  | k :: l :: rest => !k.hides l rest.head? rest.tail.head? && isSettled (l :: rest)
  | _ => true

theorem exists_spell_cons (c : Char) {cs : List Char} (h : ∀ d ∈ cs, isWordChar d = true) :
    ∃ rest, spell (c :: cs) = toLower c :: rest ∧
      (rest.map classOf).head? =
        (classOf c).seen (cs.map classOf).head? (cs.map classOf).tail.head? := by
  cases cs with
  | nil => exact ⟨[], rfl, rfl⟩
  | cons d cs =>
      have hd := h d (by simp)
      simp only [CaseClass.seen, List.map_cons, List.head?_cons, Option.map_some, List.tail_cons]
      rw [spell]
      split_ifs with hseam
      · exact ⟨_, rfl, by rw [List.map_cons, classOf_line]; rfl⟩
      · refine ⟨_, rfl, ?_⟩
        rw [← classOf_toLower hd]
        cases cs with
        | nil => rfl
        | cons e cs =>
            rw [spell]
            split_ifs <;> rfl

theorem spell_line_cons (c : Char) (cs : List Char) :
    spell ('_' :: c :: cs) = '_' :: spell (c :: cs) := by
  simp [spell, classOf_line, CaseClass.other_seam, toLower_line]

/-- Rendering again changes nothing exactly if no seam was hidden. -/
theorem spell_spell_iff {cs : List Char} (h : ∀ c ∈ cs, isWordChar c = true) :
    spell (spell cs) = spell cs ↔ isSettled (cs.map classOf) = true := by
  induction cs with
  | nil => simp [spell, isSettled]
  | cons c cs ih =>
      have hc := h c (by simp)
      have hcs : ∀ d ∈ cs, isWordChar d = true := fun d hd => h d (by simp [hd])
      cases cs with
      | nil => simp [spell, isSettled, toLower_toLower_of_isWordChar hc]
      | cons d rest =>
          have hd := h d (by simp)
          have hrest : ∀ e ∈ rest, isWordChar e = true := fun e he => h e (by simp [he])
          obtain ⟨tail, htail, hfirst⟩ := exists_spell_cons d hrest
          have hagain := ih hcs
          rw [List.map_cons, List.map_cons, isSettled, ← List.map_cons, CaseClass.hides, spell]
          cases hseam : (classOf c).seam (classOf d) (rest.map classOf).head? with
          | true =>
              -- The seam is written, so the second pass meets an underscore here.
              simp only [if_true, Bool.not_true, Bool.false_and, Bool.not_false, Bool.true_and]
              rw [← hagain, htail, spell, classOf_line, CaseClass.seam_other]
              simp [spell_line_cons, toLower_toLower_of_isWordChar hc]
          | false =>
              simp only [Bool.false_eq_true, if_false, Bool.not_false, Bool.true_and]
              rw [htail, spell, classOf_toLower hc, classOf_toLower hd, hfirst, ← htail]
              cases hlate : (classOf c).lowered.seam (classOf d).lowered
                  ((classOf d).seen (rest.map classOf).head? (rest.map classOf).tail.head?) with
              | true =>
                  -- An underscore comes in, and the character behind it is none.
                  have hne : toLower d ≠ '_' := by
                    intro hline
                    rw [← classOf_toLower hd, hline, classOf_line, CaseClass.seam_other] at hlate
                    cases hlate
                  simp only [if_true, Bool.not_true, Bool.false_and, Bool.false_eq_true, iff_false]
                  rw [htail]
                  intro heq
                  exact hne (List.cons.inj (List.cons.inj heq).2).1.symm
              | false => simp [hagain, toLower_toLower_of_isWordChar hc]

/-! ## Hidden seams -/

/-- Somewhere in a text with these classes of characters there is the end of a word that is seen
only once the letters are small. -/
inductive HidesSeam : List CaseClass → Prop where
  | later {k : CaseClass} {rest : List CaseClass} : HidesSeam rest → HidesSeam (k :: rest)
  | titleDigit {rest : List CaseClass} : HidesSeam (.title :: .digit :: rest)
  | titleFirm {rest : List CaseClass} : HidesSeam (.title :: .firm :: rest)
  | digitTitle {rest : List CaseClass} : HidesSeam (.digit :: .title :: rest)
  /-- With a small letter behind it the second capital starts a word in the first place. -/
  | capitalFirm {rest : List CaseClass} :
      rest.head? ≠ some .small → HidesSeam (.capital :: .firm :: rest)
  | firmTitle {rest : List CaseClass} : HidesSeam (.firm :: .firm :: .title :: rest)
  | firmCapital {rest : List CaseClass} :
      rest.head? ≠ some .small → HidesSeam (.firm :: .firm :: .capital :: rest)

theorem hidesSeam_of_hides {k l : CaseClass} {rest : List CaseClass}
    (h : k.hides l rest.head? rest.tail.head? = true) : HidesSeam (k :: l :: rest) := by
  rcases CaseClass.hides_iff.mp h with
    ⟨rfl, rfl | rfl⟩ | ⟨rfl, rfl⟩ | ⟨rfl, rfl, hnext⟩ | ⟨rfl, rfl, hnext⟩
  · exact .titleDigit
  · exact .titleFirm
  · exact .digitTitle
  · exact .capitalFirm hnext
  · cases rest with
    | nil => simp at hnext
    | cons m rest =>
        simp only [List.head?_cons, Option.some.injEq, List.tail_cons] at hnext
        rcases hnext with rfl | ⟨rfl, hlater⟩
        · exact .firmTitle
        · exact .firmCapital hlater

theorem isSettled_of_cons {k : CaseClass} {ks : List CaseClass} (h : isSettled (k :: ks) = true) :
    isSettled ks = true := by
  cases ks with
  | nil => rfl
  | cons l rest =>
      rw [isSettled, Bool.and_eq_true] at h
      exact h.2

theorem not_hides_of_isSettled {k l : CaseClass} {rest : List CaseClass}
    (h : isSettled (k :: l :: rest) = true) : ¬ k.hides l rest.head? rest.tail.head? = true := by
  rw [isSettled, Bool.and_eq_true, Bool.not_eq_true'] at h
  rw [h.1]
  exact Bool.false_ne_true

theorem HidesSeam.not_isSettled {ks : List CaseClass} (h : HidesSeam ks) :
    ¬ isSettled ks = true := by
  intro hsettled
  induction h with
  | later _ ih => exact ih (isSettled_of_cons hsettled)
  | titleDigit => exact not_hides_of_isSettled hsettled (CaseClass.hides_iff.mpr (by simp))
  | titleFirm => exact not_hides_of_isSettled hsettled (CaseClass.hides_iff.mpr (by simp))
  | digitTitle => exact not_hides_of_isSettled hsettled (CaseClass.hides_iff.mpr (by simp))
  | capitalFirm hnext =>
      exact not_hides_of_isSettled hsettled (CaseClass.hides_iff.mpr (by simp [hnext]))
  | firmTitle => exact not_hides_of_isSettled hsettled (CaseClass.hides_iff.mpr (by simp))
  | firmCapital hlater =>
      exact not_hides_of_isSettled hsettled (CaseClass.hides_iff.mpr (by simp [hlater]))

theorem isSettled_iff {ks : List CaseClass} : isSettled ks = true ↔ ¬ HidesSeam ks := by
  constructor
  · exact fun h hhides => hhides.not_isSettled h
  · intro h
    induction ks with
    | nil => rfl
    | cons k ks ih =>
        have hks := ih fun hhides => h (.later hhides)
        cases ks with
        | nil => rfl
        | cons l rest =>
            rw [isSettled, hks, Bool.and_true, Bool.not_eq_true', ← Bool.not_eq_true]
            exact fun hhides => h (hidesSeam_of_hides hhides)

/-! ## Member style -/

theorem memberStyle_encode {cs : List Char} (h : ∀ c ∈ cs, isWordChar c = true) :
    memberStyle (Utf8.encode cs) = Utf8.encode (spell cs) := by
  rw [memberStyle_eq_snake, separate, Utf8.runes_encode, Utf8.runes_encode,
    separateRunes_of_isWordChar h, snake_eq_spell]

theorem memberStyle_eq_encode (name : Bytes) :
    memberStyle name = Utf8.encode (spell (separateRunes (Utf8.runes name))) := by
  rw [memberStyle_eq_snake, separate, Utf8.runes_encode, snake_eq_spell]

theorem isWordChar_toLower {c : Char} (h : isWordChar c = true) :
    isWordChar (toLower c) = true := by
  rcases isWordChar_iff.mp h with rfl | hletter | hdigit
  · rw [toLower_line]
    decide
  · exact isWordChar_iff.mpr (.inr (.inl (Text.isLetter_toLower hletter)))
  · rwa [Text.toLower_of_isDigit hdigit]

theorem forall_mem_spell {P : Char → Prop} (hline : P '_') {cs : List Char}
    (h : ∀ c ∈ cs, P (toLower c)) : ∀ c ∈ spell cs, P c := by
  fun_induction spell cs with
  | case1 => simp
  | case2 c => simpa using h
  | case3 c d rest _ ih =>
      have hrest := ih fun e he => h e (by simp [he])
      simpa [hline, h c] using hrest
  | case4 c d rest _ ih =>
      have hrest := ih fun e he => h e (by simp [he])
      simpa [h c] using hrest

/-- Among lowered letters no seam is hidden. -/
theorem isSettled_of_lowered {ks : List CaseClass} (h : ∀ k ∈ ks, k.lowered = k) :
    isSettled ks = true := by
  rw [isSettled_iff]
  intro hhides
  induction hhides with
  | later _ ih => exact ih fun k hk => h k (by simp [hk])
  | titleDigit => cases h .title (by simp)
  | titleFirm => cases h .title (by simp)
  | digitTitle => cases h .title (by simp)
  | capitalFirm => cases h .capital (by simp)
  | firmTitle => cases h .title (by simp)
  | firmCapital => cases h .capital (by simp)

theorem lowered_lowered (k : CaseClass) : k.lowered.lowered = k.lowered := by
  cases k <;> rfl

/-- A name that is rendered in member style changes when it is rendered again exactly if it hides a
seam, and the second rendering is the last that can change anything. -/
theorem memberStyle_stable_iff (name : Bytes) :
    (memberStyle (memberStyle name) = memberStyle name ↔
      ¬ HidesSeam ((separateRunes (Utf8.runes name)).map classOf)) ∧
    memberStyle (memberStyle (memberStyle name)) = memberStyle (memberStyle name) := by
  have hword : ∀ c ∈ separateRunes (Utf8.runes name), isWordChar c = true :=
    isWordChar_of_mem_separateRunes
  have honce : ∀ c ∈ spell (separateRunes (Utf8.runes name)), isWordChar c = true :=
    forall_mem_spell (by decide) fun c hc => isWordChar_toLower (hword c hc)
  have htwice : ∀ c ∈ spell (spell (separateRunes (Utf8.runes name))), isWordChar c = true :=
    forall_mem_spell (by decide) fun c hc => isWordChar_toLower (honce c hc)
  have hlowered : ∀ c ∈ spell (separateRunes (Utf8.runes name)),
      (classOf c).lowered = classOf c := by
    refine forall_mem_spell (by decide) ?_
    intro c hc
    rw [classOf_toLower (hword c hc), lowered_lowered]
  rw [memberStyle_eq_encode name, memberStyle_encode honce, memberStyle_encode htwice,
    Utf8.encode_inj, Utf8.encode_inj]
  refine ⟨(spell_spell_iff hword).trans isSettled_iff, (spell_spell_iff honce).mpr ?_⟩
  exact isSettled_of_lowered (List.forall_mem_map.mpr hlowered)

/-- A digit behind a letter in title case, where the second rendering finds the end of a word. -/
theorem memberStyle_twice_ne_once :
    let name : Bytes := "ǅ1"
    memberStyle name = Bytes.ofString "ǆ1" ∧
      memberStyle (memberStyle name) = Bytes.ofString "ǆ_1" ∧
      memberStyle (memberStyle name) ≠ memberStyle name := by
  decide +kernel

end RpcBindings.Name
