import RpcBindings.Proofs.Name.Plain

/-!
# Type style undoes member style (SPEC §4.1)

An ASCII name in type style consists of letters and digits; a letter at its start or behind a digit is
a capital, and no capital follows a capital.  Member style puts an underscore wherever such a name
changes between a letter and a digit and in front of every capital but the first, so type style finds
the capitals again.  Hence the member name determines the name, and so does the identifier, which
marks keywords in ways no member name is spelled.
-/

set_option autoImplicit false

namespace RpcBindings.Name

open Ascii (isCapital isSmall isNumeral raise lower isAscii)

/-! ## Bytes -/

theorem capital_facts : ∀ b : UInt8, isCapital b = true →
    isSmall b = false ∧ isNumeral b = false ∧ isCapital (lower b) = false ∧
      isSmall (lower b) = true ∧ raise (lower b) = b := by
  intro b h
  grind [isCapital, isSmall, isNumeral, lower, raise]

theorem small_facts : ∀ b : UInt8, isSmall b = true →
    isCapital b = false ∧ isNumeral b = false ∧ lower b = b ∧ isCapital (raise b) = true := by
  intro b h
  grind [isCapital, isSmall, isNumeral, lower, raise]

theorem numeral_facts : ∀ b : UInt8, isNumeral b = true →
    isCapital b = false ∧ isSmall b = false ∧ lower b = b := by
  intro b h
  grind [isCapital, isSmall, isNumeral, lower]

/-- The byte is a letter, a digit or an underscore. -/
def isWordByte (b : UInt8) : Bool := isCapital b || isSmall b || isNumeral b || b == 0x5F

theorem isWordByte_facts : ∀ b : UInt8, isWordByte b = true →
    b < 0x80 ∧ isWordChar (Char.ofNat b.toNat) = true ∧ Text.isBlank (Char.ofNat b.toNat) = false :=
  Bytes.forall_byte (by decide +kernel)

/-- On ASCII, capitals and their small letters are those of the bytes. -/
theorem ascii_facts : ∀ b : UInt8, b < 0x80 →
    Text.isUpper (Char.ofNat b.toNat) = isCapital b ∧
      Text.toLower (Char.ofNat b.toNat) = Char.ofNat (lower b).toNat ∧ lower b < 0x80 ∧
      raise b < 0x80 ∧
      String.utf8EncodeChar (Char.ofNat b.toNat) = [b] :=
  Bytes.forall_byte (by decide +kernel)

theorem encode_ascii {bs : Bytes} (h : ∀ b ∈ bs, b < 0x80) :
    Utf8.encode (bs.map fun b => Char.ofNat b.toNat) = bs := by
  induction bs with
  | nil => rfl
  | cons b bs ih =>
      obtain ⟨_, _, _, _, hb⟩ := ascii_facts b (h b (by simp))
      rw [List.map_cons, Utf8.encode_cons, hb, ih fun d hd => h d (by simp [hd])]
      rfl

/-! ## Separating -/

theorem trimRunes_of_forall {cs : List Char} (h : ∀ c ∈ cs, Text.isBlank c = false) :
    trimRunes cs = cs := by
  have hdrop : ∀ {ds : List Char}, (∀ c ∈ ds, Text.isBlank c = false) →
      ds.dropWhile Text.isBlank = ds := by
    intro ds hds
    cases ds with
    | nil => rfl
    | cons d ds => rw [List.dropWhile_cons, hds d (by simp), if_neg (by decide)]
  rw [trimRunes, hdrop h, hdrop fun c hc => h c (List.mem_reverse.mp hc), List.reverse_reverse]

/-- A name of letters, digits and underscores is separated as it stands. -/
theorem separate_of_forall {bs : Bytes} (h : ∀ b ∈ bs, isWordByte b = true) : separate bs = bs := by
  have hascii : ∀ b ∈ bs, b < 0x80 := fun b hb => (isWordByte_facts b (h b hb)).1
  have hword : ∀ c ∈ bs.map fun b => Char.ofNat b.toNat, separateChar c = c := by
    refine List.forall_mem_map.mpr ?_
    intro b hb
    rw [separateChar, if_pos (isWordByte_facts b (h b hb)).2.1]
  have hblank : ∀ c ∈ bs.map fun b => Char.ofNat b.toNat, Text.isBlank c = false :=
    List.forall_mem_map.mpr fun b hb => (isWordByte_facts b (h b hb)).2.2
  rw [separate, separateRunes, Utf8.runes_ascii hascii, trimRunes_of_forall hblank,
    List.map_congr_left hword, List.map_id', encode_ascii hascii]

theorem mem_trimRunes {cs : List Char} {c : Char} (h : c ∈ trimRunes cs) : c ∈ cs := by
  have hinner := List.mem_reverse.mp h
  have houter := List.mem_reverse.mp ((List.dropWhile_sublist _).mem hinner)
  exact (List.dropWhile_sublist _).mem houter

theorem isAscii_separate {bs : Bytes} (h : isAscii bs = true) : isAscii (separate bs) = true := by
  have hascii := forall_lt_of_isAscii h
  rw [isAscii, List.all_eq_true]
  intro b hb
  obtain ⟨c, hc, hbc⟩ := List.mem_flatMap.mp hb
  obtain ⟨d, hd, rfl⟩ := List.mem_map.mp hc
  have hd' := mem_trimRunes hd
  rw [Utf8.runes_ascii hascii] at hd'
  obtain ⟨e, he, rfl⟩ := List.mem_map.mp hd'
  unfold separateChar at hbc
  split_ifs at hbc
  · obtain ⟨_, _, _, _, hencode⟩ := ascii_facts e (hascii e he)
    rw [hencode, List.mem_singleton] at hbc
    rw [hbc]
    exact decide_eq_true (hascii e he)
  · have hline : ((String.utf8EncodeChar '_').all fun b => decide (b < 0x80)) = true := by decide
    exact List.all_eq_true.mp hline b hbc

/-! ## Collapsing -/

/-- Lowers a capital that follows a capital, byte by byte. -/
def collapseBytes (prevUpper : Bool) : Bytes → Bytes
  | [] => []
  | b :: bs =>
      let out := if prevUpper && isCapital b then lower b else b
      out :: collapseBytes (isCapital out) bs

theorem encode_collapseFrom {bs : Bytes} (h : ∀ b ∈ bs, b < 0x80) (prevUpper : Bool) :
    Utf8.encode (collapseFrom prevUpper (Utf8.runes bs)) = collapseBytes prevUpper bs := by
  rw [Utf8.runes_ascii h]
  induction bs generalizing prevUpper with
  | nil => rfl
  | cons b bs ih =>
      obtain ⟨hupper, hlower, hlt, _, hencode⟩ := ascii_facts b (h b (by simp))
      obtain ⟨hupper', _, _, _, hencode'⟩ := ascii_facts (lower b) hlt
      have hbs : ∀ d ∈ bs, d < 0x80 := fun d hd => h d (by simp [hd])
      rw [List.map_cons, collapseFrom, collapseBytes]
      simp only [hupper, hlower]
      split_ifs
      · rw [Utf8.encode_cons, hencode', hupper', ih hbs]
        rfl
      · rw [Utf8.encode_cons, hencode, hupper, ih hbs]
        rfl

theorem typeStyle_ascii {bs : Bytes} (h : isAscii (separate bs) = true) :
    typeStyle bs = collapseBytes false (Ascii.camel (separate bs)) := by
  have hcamel := Ascii.camelFrom_forall (P := fun b => b < 0x80)
    (fun b hb => (ascii_facts b hb).2.2.2.1) (fun b hb => (ascii_facts b hb).2.2.1)
    (forall_lt_of_isAscii h) true false
  rw [typeStyle, if_pos h]
  exact encode_collapseFrom hcamel false

/-! ## The shape of type style -/

/-- Letters and digits from the middle of a name on.  `due` tells that a letter here must be a
capital, as at the start and behind a digit, and `follows` that a capital was just read, so that
another has no place here. -/
inductive Styled : Bool → Bool → Bytes → Prop where
  | nil {due follows : Bool} : Styled due follows []
  | capital {due : Bool} {b : UInt8} {bs : Bytes} :
      isCapital b = true → Styled false true bs → Styled due false (b :: bs)
  | small {follows : Bool} {b : UInt8} {bs : Bytes} :
      isSmall b = true → Styled false false bs → Styled false follows (b :: bs)
  | numeral {due follows : Bool} {b : UInt8} {bs : Bytes} :
      isNumeral b = true → Styled true false bs → Styled due follows (b :: bs)

/-- What camel case writes for a letter is a letter, and a capital where one is asked for. -/
theorem camel_letter (capNext prevCap : Bool) {b : UInt8} (h : (isCapital b || isSmall b) = true) :
    let x := if capNext then raise b else if prevCap && isCapital b then lower b else b
    isCapital x = true ∨ isSmall x = true ∧ capNext = false := by
  rw [Bool.or_eq_true] at h
  obtain hb | hb := h
  · have hfacts := capital_facts b hb
    have hraise : raise b = b := by simp [raise, hfacts.1]
    simp only
    split_ifs
    · rw [hraise]
      exact .inl hb
    · exact .inr ⟨hfacts.2.2.2.1, by simpa using ‹¬ capNext = true›⟩
    · exact .inl hb
  · have hfacts := small_facts b hb
    simp only [hfacts.1, Bool.and_false]
    split_ifs
    · exact .inl hfacts.2.2.2
    · rename_i hfalse
      cases hfalse
    · exact .inr ⟨hb, by simpa using ‹¬ capNext = true›⟩

/-- What camel case makes of any text has the shape, once capitals are collapsed. -/
theorem styled_collapse_camel (bs : Bytes) {capNext prevCap due follows : Bool}
    (hnext : due = true → capNext = true) (hfollows : due = true → follows = false) :
    Styled due follows (collapseBytes follows (Ascii.camelFrom capNext prevCap bs)) := by
  induction bs generalizing capNext prevCap due follows with
  | nil => exact .nil
  | cons b bs ih =>
      rw [Ascii.camelFrom]
      by_cases hletter : (isCapital b || isSmall b) = true
      · have hx := camel_letter capNext prevCap hletter
        rw [if_pos hletter]
        generalize (if capNext then raise b else if prevCap && isCapital b then lower b else b) = x
          at hx ⊢
        rw [collapseBytes]
        obtain hcapital | ⟨hsmall, hcap⟩ := hx
        · cases follows with
          | false =>
              simp only [Bool.false_and, if_neg Bool.false_ne_true, hcapital]
              exact .capital hcapital (ih (by simp) (by simp))
          | true =>
              -- A capital behind a capital is lowered, and none was due here.
              have hdue : due = false := by
                cases due with
                | false => rfl
                | true => cases hfollows rfl
              obtain ⟨_, _, hlower, hsmall, _⟩ := capital_facts x hcapital
              simp only [hcapital, Bool.and_self, if_true, hlower, hdue]
              exact .small hsmall (ih (by simp) (by simp))
        · have hdue : due = false := by
            cases due with
            | false => rfl
            | true => rw [hnext rfl] at hcap; cases hcap
          simp only [(small_facts x hsmall).1, Bool.and_false, if_neg Bool.false_ne_true, hdue]
          exact .small hsmall (ih (by simp) (by simp))
      · rw [if_neg hletter]
        split_ifs with hnumeral
        · rw [collapseBytes]
          simp only [(numeral_facts b hnumeral).1, Bool.and_false, if_neg Bool.false_ne_true]
          exact .numeral hnumeral (ih (fun _ => rfl) (fun _ => rfl))
        · exact ih (fun _ => rfl) hfollows

theorem styled_of_isTypeStyle {p : Bytes} (hascii : isAscii p = true)
    (h : isTypeStyle p = true) : Styled true false p := by
  rw [isTypeStyle, Bool.and_eq_true, beq_iff_eq] at h
  rw [← h.2, typeStyle_ascii (isAscii_separate hascii)]
  exact styled_collapse_camel _ (fun _ => rfl) (fun _ => rfl)

theorem Styled.isWordByte {due follows : Bool} {p : Bytes} (h : Styled due follows p) :
    ∀ b ∈ p, isWordByte b = true := by
  induction h with
  | nil => simp
  | capital hb _ ih => exact List.forall_mem_cons.mpr ⟨by simp [Name.isWordByte, hb], ih⟩
  | small hb _ ih => exact List.forall_mem_cons.mpr ⟨by simp [Name.isWordByte, hb], ih⟩
  | numeral hb _ ih => exact List.forall_mem_cons.mpr ⟨by simp [Name.isWordByte, hb], ih⟩

/-- In the shape no capital follows another, so there is nothing to collapse. -/
theorem Styled.collapseBytes_eq {due follows : Bool} {p : Bytes} (h : Styled due follows p) :
    collapseBytes follows p = p := by
  induction h with
  | nil => rfl
  | @capital due b bs hb _ ih => simp [collapseBytes, hb, ih]
  | @small follows b bs hb _ ih => simp [collapseBytes, (small_facts b hb).1, ih]
  | @numeral due follows b bs hb _ ih => simp [collapseBytes, (numeral_facts b hb).1, ih]

/-! ## Camel case undoes snake case -/

theorem camelFrom_line (capNext prevCap : Bool) (bs : Bytes) :
    Ascii.camelFrom capNext prevCap (0x5F :: bs) = Ascii.camelFrom true false bs := rfl

theorem camelFrom_numeral {b : UInt8} (h : isNumeral b = true) (capNext prevCap : Bool)
    (bs : Bytes) : Ascii.camelFrom capNext prevCap (b :: bs) = b :: Ascii.camelFrom true false bs := by
  obtain ⟨hcapital, hsmall, _⟩ := numeral_facts b h
  simp [Ascii.camelFrom, hcapital, hsmall, h]

theorem camelFrom_small {b : UInt8} (h : isSmall b = true) (bs : Bytes) :
    Ascii.camelFrom false false (b :: bs) = b :: Ascii.camelFrom false false bs := by
  simp [Ascii.camelFrom, h, (small_facts b h).1]

theorem camelFrom_lower {b : UInt8} (h : isCapital b = true) (bs : Bytes) :
    Ascii.camelFrom true false (lower b :: bs) = b :: Ascii.camelFrom false false bs := by
  obtain ⟨_, _, hcapital, hsmall, hraise⟩ := capital_facts b h
  simp [Ascii.camelFrom, hcapital, hsmall, hraise]

/-- A letter at the front of the text is a capital exactly if the reader expects one. -/
def Expects (capNext : Bool) (p : Bytes) : Prop :=
  ∀ b ∈ p.head?, (isCapital b = true → capNext = true) ∧ (isSmall b = true → capNext = false)

/-- Snake case puts an underscore between the two bytes. -/
def seam (b d : UInt8) : Bool := isCapital d || (isNumeral d && !isNumeral b)

/-- An underscore between two bytes, if there is one, before the rest. -/
def seamed (b d : UInt8) (rest : Bytes) : Bytes := if seam b d then 0x5F :: rest else rest

theorem Styled.snakeFrom_cons_cons {due follows : Bool} {b d : UInt8} {bs : Bytes}
    (h : Styled due follows (b :: d :: bs)) :
    Ascii.snakeFrom follows (b :: d :: bs) =
      lower b :: seamed b d (Ascii.snakeFrom (isCapital b) (d :: bs)) := by
  rw [Ascii.snakeFrom]
  cases h with
  | capital hb h =>
      obtain ⟨hb', hb'', _⟩ := capital_facts b hb
      cases h with
      | small hd _ => simp [seamed, seam, hb, hb', hb'', hd, small_facts d hd]
      | numeral hd _ => simp [seamed, seam, hb, hb', hb'', hd, numeral_facts d hd]
  | small hb h =>
      obtain ⟨hb', hb'', _⟩ := small_facts b hb
      cases h with
      | capital hd _ => simp [seamed, seam, hb, hb', hb'', hd, capital_facts d hd]
      | small hd _ => simp [seamed, seam, hb, hb', hb'', hd, small_facts d hd]
      | numeral hd _ => simp [seamed, seam, hb, hb', hb'', hd, numeral_facts d hd]
  | numeral hb h =>
      obtain ⟨hb', hb'', _⟩ := numeral_facts b hb
      cases h with
      | capital hd _ => simp [seamed, seam, hb, hb', hb'', hd, capital_facts d hd]
      | numeral hd _ => simp [seamed, seam, hb, hb', hb'', hd, numeral_facts d hd]

theorem camelFrom_seamed (capNext : Bool) (b d : UInt8) (rest : Bytes) :
    Ascii.camelFrom capNext false (seamed b d rest) =
      Ascii.camelFrom (capNext || seam b d) false rest := by
  unfold seamed
  cases seam b d with
  | false => simp
  | true => simp [camelFrom_line]

theorem expects_seam (b d : UInt8) (bs : Bytes) : Expects (seam b d) (d :: bs) := by
  intro e he
  obtain rfl : d = e := by simpa using he
  refine ⟨fun hcapital => by simp [seam, hcapital], ?_⟩
  intro hsmall
  simp [seam, small_facts d hsmall]

theorem expects_true {follows : Bool} {bs : Bytes} (h : Styled true follows bs) :
    Expects true bs := by
  intro b hb
  refine ⟨fun _ => rfl, ?_⟩
  intro hsmall
  cases h with
  | nil => cases hb
  | capital hd _ =>
      obtain rfl := Option.some.inj hb
      rw [(small_facts _ hsmall).1] at hd
      cases hd
  | numeral hd _ =>
      obtain rfl := Option.some.inj hb
      rw [(small_facts _ hsmall).2.1] at hd
      cases hd

/-- Reading a name in snake case from the middle on, camel case finds its capitals again. -/
theorem Styled.camelFrom_snakeFrom {due follows : Bool} {p : Bytes} (h : Styled due follows p)
    {capNext : Bool} (hexpects : Expects capNext p) :
    Ascii.camelFrom capNext false (Ascii.snakeFrom follows p) = p := by
  induction h generalizing capNext with
  | nil => rfl
  | @capital due b bs hb h ih =>
      obtain rfl : capNext = true := (hexpects b rfl).1 hb
      cases bs with
      | nil => exact camelFrom_lower hb []
      | cons d bs =>
          have hall : Styled due false (b :: d :: bs) := .capital hb h
          rw [hall.snakeFrom_cons_cons, camelFrom_lower hb, camelFrom_seamed, hb, Bool.false_or,
            ih (expects_seam b d bs)]
  | @small follows b bs hb h ih =>
      obtain rfl : capNext = false := (hexpects b rfl).2 hb
      obtain ⟨hcapital, _, hlower, _⟩ := small_facts b hb
      cases bs with
      | nil =>
          rw [Ascii.snakeFrom, hlower]
          exact camelFrom_small hb []
      | cons d bs =>
          have hall : Styled false follows (b :: d :: bs) := .small hb h
          rw [hall.snakeFrom_cons_cons, hlower, camelFrom_small hb, camelFrom_seamed, hcapital,
            Bool.false_or, ih (expects_seam b d bs)]
  | @numeral due follows b bs hb h ih =>
      obtain ⟨hcapital, _, hlower⟩ := numeral_facts b hb
      cases bs with
      | nil =>
          rw [Ascii.snakeFrom, hlower]
          exact camelFrom_numeral hb capNext false []
      | cons d bs =>
          have hall : Styled due follows (b :: d :: bs) := .numeral hb h
          rw [hall.snakeFrom_cons_cons, hlower, camelFrom_numeral hb, camelFrom_seamed, hcapital,
            Bool.true_or, ih (expects_true h)]

/-! ## Member style -/

theorem isWordByte_lower : ∀ b : UInt8, isWordByte b = true → isWordByte (lower b) = true := by
  intro b h
  grind [isWordByte, isCapital, isSmall, isNumeral, lower]

theorem isAscii_of_forall {bs : Bytes} (h : ∀ b ∈ bs, isWordByte b = true) : isAscii bs = true :=
  List.all_eq_true.mpr fun b hb => decide_eq_true (isWordByte_facts b (h b hb)).1

theorem Styled.memberStyle_eq {p : Bytes} (h : Styled true false p) :
    memberStyle p = Ascii.snake p := by
  rw [memberStyle, separate_of_forall h.isWordByte, if_pos (isAscii_of_forall h.isWordByte)]

theorem Styled.isWordByte_memberStyle {p : Bytes} (h : Styled true false p) :
    ∀ b ∈ memberStyle p, Name.isWordByte b = true := by
  rw [h.memberStyle_eq]
  exact Ascii.snakeFrom_forall (P := fun b => Name.isWordByte b = true) (by decide)
    isWordByte_lower h.isWordByte false

/-- The name in type style can be read off its member name. -/
theorem Styled.typeStyle_memberStyle {p : Bytes} (h : Styled true false p) :
    typeStyle (memberStyle p) = p := by
  have hword := h.isWordByte_memberStyle
  have hseparate := separate_of_forall hword
  have hcamel : Ascii.camel (memberStyle p) = p := by
    rw [h.memberStyle_eq]
    exact h.camelFrom_snakeFrom (expects_true h)
  rw [typeStyle_ascii (by rw [hseparate]; exact isAscii_of_forall hword), hseparate, hcamel,
    h.collapseBytes_eq]

theorem lower_ne_line : ∀ b : UInt8, (isCapital b || isSmall b || isNumeral b) = true →
    lower b ≠ 0x5F := by
  intro b h
  grind [isCapital, isSmall, isNumeral, lower]

theorem Styled.cons_cases {due follows : Bool} {b : UInt8} {bs : Bytes}
    (h : Styled due follows (b :: bs)) :
    (isCapital b || isSmall b || isNumeral b) = true ∧ ∃ due', Styled due' (isCapital b) bs := by
  cases h with
  | capital hb h => exact ⟨by simp [hb], false, by rwa [hb]⟩
  | small hb h => exact ⟨by simp [hb], false, by rwa [(small_facts b hb).1]⟩
  | numeral hb h => exact ⟨by simp [hb], true, by rwa [(numeral_facts b hb).1]⟩

theorem getLast?_cons_of_eq_some {bs : Bytes} {x : UInt8} (h : bs.getLast? = some x) (b : UInt8) :
    (b :: bs).getLast? = some x := by
  rw [List.getLast?_cons, h]
  rfl

theorem Styled.getLast?_snakeFrom {due follows : Bool} {b : UInt8} {bs : Bytes}
    (h : Styled due follows (b :: bs)) :
    ∃ x, (Ascii.snakeFrom follows (b :: bs)).getLast? = some x ∧ x ≠ 0x5F := by
  induction bs generalizing due follows b with
  | nil => exact ⟨lower b, rfl, lower_ne_line b h.cons_cases.1⟩
  | cons d bs ih =>
      obtain ⟨_, due', htail⟩ := h.cons_cases
      obtain ⟨x, hx, hline⟩ := ih htail
      refine ⟨x, ?_, hline⟩
      rw [h.snakeFrom_cons_cons, seamed]
      split_ifs
      · exact getLast?_cons_of_eq_some (getLast?_cons_of_eq_some hx _) _
      · exact getLast?_cons_of_eq_some hx _

/-- The name neither ends in an underscore nor holds a hash, as escaped keywords do. -/
structure Unescaped (name : Bytes) : Prop where
  last : name.getLast? ≠ some 0x5F
  hash : (0x23 : UInt8) ∉ name

theorem Styled.unescaped_memberStyle {p : Bytes} (h : Styled true false p) (hp : p ≠ []) :
    Unescaped (memberStyle p) := by
  refine ⟨?_, ?_⟩
  · obtain ⟨b, bs, rfl⟩ := List.exists_cons_of_ne_nil hp
    obtain ⟨x, hx, hline⟩ := h.getLast?_snakeFrom
    rw [h.memberStyle_eq, Ascii.snake, hx]
    exact fun heq => hline (Option.some.inj heq)
  · intro hhash
    have hword := h.isWordByte_memberStyle _ hhash
    revert hword
    decide

/-! ## Identifiers -/

theorem getLast?_append_line (m : Bytes) : (m ++ Bytes.ofString "_").getLast? = some 0x5F := by
  have hline : Bytes.ofString "_" = [0x5F] := by decide
  rw [hline, List.getLast?_concat]

theorem hash_mem_raw (m : Bytes) : (0x23 : UInt8) ∈ Bytes.ofString "r#" ++ m := by
  have hraw : Bytes.ofString "r#" = [0x72, 0x23] := by decide
  simp [hraw]

theorem hash_not_mem_append_line {m : Bytes} (h : Unescaped m) :
    (0x23 : UInt8) ∉ m ++ Bytes.ofString "_" := by
  have hline : Bytes.ofString "_" = [0x5F] := by decide
  simp [hline, h.hash]

/-- Escaping keywords keeps names apart that do not look escaped. -/
theorem escapeKeyword_injective {m n : Bytes} (hm : Unescaped m) (hn : Unescaped n)
    (h : escapeKeyword m = escapeKeyword n) : m = n := by
  unfold escapeKeyword at h
  split_ifs at h
  · exact List.append_cancel_right h
  · exact absurd (h ▸ hash_mem_raw n) (hash_not_mem_append_line hm)
  · exact absurd (h ▸ getLast?_append_line m) hn.last
  · exact absurd (h ▸ hash_mem_raw m) (hash_not_mem_append_line hn)
  · exact List.append_cancel_left h
  · exact absurd (h ▸ hash_mem_raw m) hn.hash
  · exact absurd (h ▸ getLast?_append_line n) hm.last
  · exact absurd (h ▸ hash_mem_raw n) hm.hash
  · exact h

theorem memberStyle_ne_nil {p : Bytes} (h : Styled true false p) (hp : p ≠ []) :
    memberStyle p ≠ [] := by
  obtain ⟨b, bs, rfl⟩ := List.exists_cons_of_ne_nil hp
  obtain ⟨x, hx, _⟩ := h.getLast?_snakeFrom
  rw [h.memberStyle_eq]
  intro hnil
  rw [Ascii.snake] at hnil
  rw [hnil] at hx
  cases hx

theorem memberIdent_of_ne_nil {p : Bytes} (h : memberStyle p ≠ []) :
    memberIdent p = escapeKeyword (memberStyle p) := by
  unfold memberIdent
  split
  · rename_i hnil
    exact absurd hnil h
  · rfl

/-- An ASCII name in type style. -/
structure Bindable (p : Bytes) : Prop where
  ascii : isAscii p = true
  typeStyle : isTypeStyle p = true

theorem Bindable.styled {p : Bytes} (h : Bindable p) : Styled true false p :=
  styled_of_isTypeStyle h.ascii h.typeStyle

theorem Bindable.ne_nil {p : Bytes} (h : Bindable p) : p ≠ [] := by
  have hp := h.typeStyle
  rw [isTypeStyle, Bool.and_eq_true, bne_iff_ne] at hp
  exact hp.1

theorem Bindable.memberIdent_injective {p q : Bytes} (hp : Bindable p) (hq : Bindable q)
    (h : memberIdent p = memberIdent q) : p = q := by
  rw [memberIdent_of_ne_nil (memberStyle_ne_nil hp.styled hp.ne_nil),
    memberIdent_of_ne_nil (memberStyle_ne_nil hq.styled hq.ne_nil)] at h
  have hstyle : memberStyle p = memberStyle q :=
    escapeKeyword_injective (hp.styled.unescaped_memberStyle hp.ne_nil)
      (hq.styled.unescaped_memberStyle hq.ne_nil) h
  calc p = Name.typeStyle (memberStyle p) := hp.styled.typeStyle_memberStyle.symm
    _ = Name.typeStyle (memberStyle q) := by rw [hstyle]
    _ = q := hq.styled.typeStyle_memberStyle

end RpcBindings.Name
