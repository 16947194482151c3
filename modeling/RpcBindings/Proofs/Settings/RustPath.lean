import Mathlib.Tactic.SplitIfs
import RpcBindings.Proofs.Text.Bytes
import RpcBindings.Settings.RustPath

/-!
# The grammar of paths (SPEC §8)

The check of a path cuts it at pairs of colons and looks at the parts.  What passes is what the grammar
derives: segments with two colons between neighbours, and perhaps two colons in front.  A segment holds
no colon, so cutting a path finds its segments again.
-/

set_option autoImplicit false

namespace RpcBindings.RustPath

/-! ## The grammar -/

/-- The byte is a letter of ASCII or an underscore. -/
def StartByte (b : UInt8) : Prop := (Char.ofNat b.toNat).isAlpha = true ∨ Char.ofNat b.toNat = '_'

/-- The byte is a letter or a digit of ASCII or an underscore. -/
def ContinueByte (b : UInt8) : Prop := StartByte b ∨ (Char.ofNat b.toNat).isDigit = true

/-- An identifier. -/
inductive Identifier : Bytes → Prop where
  | intro {first : UInt8} {rest : Bytes} :
      StartByte first → (∀ b ∈ rest, ContinueByte b) → Identifier (first :: rest)

/-- An identifier, raw or not. -/
inductive Segment : Bytes → Prop where
  | plain {ident : Bytes} : Identifier ident → Segment ident
  | raw {ident : Bytes} : Identifier ident → Segment ("r#" ++ ident)

/-- Segments with two colons between them, and perhaps two colons in front. -/
inductive Derives : Bytes → Prop where
  | relative {parts : List Bytes} :
      parts ≠ [] → (∀ part ∈ parts, Segment part) → Derives (Bytes.join "::" parts)
  | rooted {parts : List Bytes} :
      parts ≠ [] → (∀ part ∈ parts, Segment part) → Derives ("::" ++ Bytes.join "::" parts)

/-! ## Bytes -/

theorem toNat_ofNat_toNat (b : UInt8) : (Char.ofNat b.toNat).toNat = b.toNat := by
  have hb := b.toNat_lt
  rw [Char.ofNat, dif_pos (.inl (by omega))]
  rfl

theorem isStart_iff {b : UInt8} : isStart b = true ↔ StartByte b := by
  have hnat := toNat_ofNat_toNat b
  have hline : Char.ofNat b.toNat = '_' ↔ b.toNat = 0x5F := by
    rw [← Char.toNat_inj, hnat]
    rfl
  rw [isStart, StartByte, hline]
  delta Char.isAlpha Char.isUpper Char.isLower
  simp only [Bool.or_eq_true, Bool.and_eq_true, decide_eq_true_eq, beq_iff_eq,
    UInt8.le_iff_toNat_le, ← UInt8.toNat_inj, ge_iff_le, UInt32.le_iff_toNat_le,
    Char.toNat] at hnat ⊢
  rw [hnat]
  rfl

theorem isContinue_iff {b : UInt8} : isContinue b = true ↔ ContinueByte b := by
  have hnat := toNat_ofNat_toNat b
  rw [isContinue, Bool.or_eq_true, isStart_iff]
  simp only [ContinueByte, Char.isDigit, Bool.and_eq_true, decide_eq_true_eq,
    UInt8.le_iff_toNat_le, ge_iff_le, UInt32.le_iff_toNat_le, Char.toNat] at hnat ⊢
  rw [hnat]
  rfl

/-! ## Segments -/

variable {bs : Bytes}

theorem isIdentifier_iff : isIdentifier bs = true ↔ Identifier bs := by
  constructor
  · intro h
    cases bs with
    | nil => cases h
    | cons first rest =>
        rw [isIdentifier, Bool.and_eq_true, List.all_eq_true] at h
        exact .intro (isStart_iff.mp h.1) fun b hb => isContinue_iff.mp (h.2 b hb)
  · rintro ⟨hfirst, hrest⟩
    rw [isIdentifier, Bool.and_eq_true, List.all_eq_true]
    exact ⟨isStart_iff.mpr hfirst, fun b hb => isContinue_iff.mpr (hrest b hb)⟩

theorem Identifier.isContinue (h : Identifier bs) : ∀ b ∈ bs, isContinue b = true := by
  obtain ⟨hfirst, hrest⟩ := h
  refine List.forall_mem_cons.mpr ⟨?_, fun b hb => isContinue_iff.mpr (hrest b hb)⟩
  exact isContinue_iff.mpr (.inl hfirst)

/-- An identifier is not raw: it does not hold the mark of those that are. -/
theorem Identifier.after?_eq_none (h : Identifier bs) : Bytes.after? "r#" bs = none := by
  cases hafter : Bytes.after? "r#" bs with
  | none => rfl
  | some ident =>
      rw [Bytes.after?_eq_some_iff] at hafter
      have hmark := h.isContinue 0x23 (by rw [hafter]; exact List.mem_append_left _ (by decide))
      exact absurd hmark (by decide)

theorem isSegment_iff : isSegment bs = true ↔ Segment bs := by
  unfold isSegment
  rw [isIdentifier_iff]
  constructor
  · intro h
    cases hafter : Bytes.after? "r#" bs with
    | none =>
        rw [hafter] at h
        exact .plain h
    | some ident =>
        rw [hafter] at h
        rw [Bytes.after?_eq_some_iff.mp hafter]
        exact .raw h
  · rintro (hident | hident)
    · rw [hident.after?_eq_none]
      exact hident
    · rw [Bytes.after?_eq_some_iff.mpr rfl]
      exact hident

theorem Segment.no_colon (h : Segment bs) : 0x3A ∉ bs := by
  have hident : ∀ {ident : Bytes}, Identifier ident → 0x3A ∉ ident := by
    intro ident hident hmem
    exact absurd (hident.isContinue _ hmem) (by decide)
  cases h with
  | plain h => exact hident h
  | raw h =>
      rw [List.mem_append, not_or]
      exact ⟨by decide, hident h⟩

theorem Segment.ne_nil (h : Segment bs) : bs ≠ [] := by
  rcases h with ⟨-, -⟩ | -
  · exact List.cons_ne_nil _ _
  · exact List.cons_ne_nil _ _

/-! ## Cutting at pairs of colons -/

theorem segments_ne_nil (bs : Bytes) : segments bs ≠ [] := by
  fun_cases segments bs <;> simp

theorem join_cons_cons (sep : Bytes) (b : UInt8) (part : Bytes) (parts : List Bytes) :
    Bytes.join sep ((b :: part) :: parts) = b :: Bytes.join sep (part :: parts) := by
  cases parts <;> rfl

theorem join_nil_cons (sep : Bytes) {parts : List Bytes} (h : parts ≠ []) :
    Bytes.join sep ([] :: parts) = sep ++ Bytes.join sep parts := by
  cases parts with
  | nil => exact absurd rfl h
  | cons part parts => rfl

/-- Joining what was cut gives the text again. -/
theorem join_segments (bs : Bytes) : Bytes.join "::" (segments bs) = bs := by
  fun_induction segments bs with
  | case1 => rfl
  | case2 b => rfl
  | case3 b c rest hcolons ih =>
      obtain ⟨rfl, rfl⟩ := hcolons
      rw [join_nil_cons _ (segments_ne_nil rest), ih]
      rfl
  | case4 b c rest hcolons hnil ih => exact absurd hnil (segments_ne_nil _)
  | case5 b c rest hcolons part parts hparts ih => rw [join_cons_cons, ← hparts, ih]

theorem segments_cons {b : UInt8} (hb : b ≠ 0x3A) {part : Bytes} {parts : List Bytes}
    (h : segments bs = part :: parts) : segments (b :: bs) = (b :: part) :: parts := by
  cases bs with
  | nil =>
      obtain ⟨rfl, rfl⟩ := List.cons.inj h
      rfl
  | cons c rest =>
      rw [segments, if_neg fun hcolons => hb hcolons.1, h]

theorem segments_append {part : Bytes} (h : 0x3A ∉ part) {rest first : Bytes} {parts : List Bytes}
    (hrest : segments rest = first :: parts) : segments (part ++ rest) = (part ++ first) :: parts := by
  induction part with
  | nil => exact hrest
  | cons b part ih =>
      rw [List.mem_cons, not_or] at h
      exact segments_cons (Ne.symm h.1) (ih h.2)

/-- Parts without a colon are found again once they are joined. -/
theorem segments_join {parts : List Bytes} (hne : parts ≠ []) (h : ∀ part ∈ parts, 0x3A ∉ part) :
    segments (Bytes.join "::" parts) = parts := by
  induction parts with
  | nil => exact absurd rfl hne
  | cons part parts ih =>
      rw [List.forall_mem_cons] at h
      cases parts with
      | nil =>
          have hpart := segments_append h.1 (rfl : segments [] = [[]])
          rwa [List.append_nil] at hpart
      | cons next parts =>
          have hjoined : segments ("::" ++ Bytes.join "::" (next :: parts)) = [] :: next :: parts :=
            congrArg (List.cons []) (ih (List.cons_ne_nil _ _) h.2)
          rw [Bytes.join, List.append_assoc, segments_append h.1 hjoined, List.append_nil]

/-! ## Paths -/

theorem all_isSegment_iff : (segments bs).all isSegment = true ↔
    ∃ parts, parts ≠ [] ∧ (∀ part ∈ parts, Segment part) ∧ bs = Bytes.join "::" parts := by
  simp only [List.all_eq_true, isSegment_iff]
  constructor
  · intro h
    exact ⟨segments bs, segments_ne_nil bs, h, (join_segments bs).symm⟩
  · rintro ⟨parts, hne, hparts, rfl⟩
    rwa [segments_join hne fun part hpart => (hparts part hpart).no_colon]

/-- Segments that are joined have no colons in front. -/
theorem after?_join {parts : List Bytes} (hne : parts ≠ []) (h : ∀ part ∈ parts, Segment part) :
    Bytes.after? "::" (Bytes.join "::" parts) = none := by
  cases parts with
  | nil => exact absurd rfl hne
  | cons part parts =>
      have hpart := h part (by simp)
      cases part with
      | nil => exact absurd rfl hpart.ne_nil
      | cons b part =>
          have hb : 0x3A ≠ b := fun heq => hpart.no_colon (heq ▸ List.mem_cons_self)
          rw [join_cons_cons]
          exact if_neg hb

/-- The check of a path accepts what the grammar derives. -/
theorem isPath_iff : isPath bs = true ↔ Derives bs := by
  unfold isPath
  constructor
  · intro h
    cases hafter : Bytes.after? "::" bs with
    | none =>
        rw [hafter] at h
        obtain ⟨parts, hne, hparts, rfl⟩ := all_isSegment_iff.mp h
        exact .relative hne hparts
    | some inner =>
        rw [hafter] at h
        rw [Bytes.after?_eq_some_iff.mp hafter]
        obtain ⟨parts, hne, hparts, rfl⟩ := all_isSegment_iff.mp h
        exact .rooted hne hparts
  · rintro (⟨hne, hparts⟩ | ⟨hne, hparts⟩)
    · rw [after?_join hne hparts]
      exact all_isSegment_iff.mpr ⟨_, hne, hparts, rfl⟩
    · rw [Bytes.after?_eq_some_iff.mpr rfl]
      exact all_isSegment_iff.mpr ⟨_, hne, hparts, rfl⟩

end RpcBindings.RustPath
