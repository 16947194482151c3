import RpcBindings.Proofs.Json.Scalar
import RpcBindings.Proofs.Text.Bytes

/-!
# The grammar of JSON texts

What a JSON text is, said without a reader: a value with blanks around it.  The grammar relates a
text to the tree that it spells, keeping the members of an object in the order of the text and equal
keys included.  Nothing bounds the depth, and bytes from 128 on stand for themselves.

`parse?` is shown to follow the grammar both ways: `parse? bs = some v` exactly when `bs` is a text
that spells `v`.  The way back also says that the depth which `parse?` allows is always enough: a
value takes at most two levels of recursion for each of its bytes.
-/

set_option autoImplicit false

namespace RpcBindings.Json

/-! ## The grammar -/

/-- A key with the blanks around it. -/
def SpellsKey (k key : Bytes) : Prop :=
  ∃ w b ps w', Blanks w ∧ SpellsParts b ps ∧ Blanks w' ∧ key = unescape ps ∧
    k = w ++ 0x22 :: (b ++ 0x22 :: w')

mutual

/-- The text of a value, without the blanks around it. -/
inductive Spells : Bytes → Json → Prop where
  | null : Spells "null" .null
  | true : Spells "true" (.bool Bool.true)
  | false : Spells "false" (.bool Bool.false)
  | number {bs : Bytes} : IsNumber bs → Spells bs (.number bs)
  | string {bs : Bytes} {ps : List Part} :
      SpellsParts bs ps → Spells (0x22 :: (bs ++ [0x22])) (.string (unescape ps))
  | emptyArray {w : Bytes} : Blanks w → Spells (0x5B :: (w ++ [0x5D])) (.array [])
  | array {bs : Bytes} {items : List Json} :
      SpellsItems bs items → Spells (0x5B :: (bs ++ [0x5D])) (.array items)
  | emptyObject {w : Bytes} : Blanks w → Spells (0x7B :: (w ++ [0x7D])) (.object [])
  | object {bs : Bytes} {members : Members} :
      SpellsMembers bs members → Spells (0x7B :: (bs ++ [0x7D])) (.object members)

/-- A value with the blanks around it. -/
inductive SpellsPadded : Bytes → Json → Prop where
  | mk {w b w' : Bytes} {v : Json} :
      Blanks w → Spells b v → Blanks w' → SpellsPadded (w ++ (b ++ w')) v

/-- The items of an array, at least one, with commas between them. -/
inductive SpellsItems : Bytes → List Json → Prop where
  | last {b : Bytes} {v : Json} : SpellsPadded b v → SpellsItems b [v]
  | more {b rest : Bytes} {v : Json} {items : List Json} :
      SpellsPadded b v → SpellsItems rest items → SpellsItems (b ++ 0x2C :: rest) (v :: items)

/-- The members of an object, at least one, with commas between them. -/
inductive SpellsMembers : Bytes → Members → Prop where
  | last {k key b : Bytes} {v : Json} :
      SpellsKey k key → SpellsPadded b v → SpellsMembers (k ++ 0x3A :: b) [(key, v)]
  | more {k key b rest : Bytes} {v : Json} {members : Members} :
      SpellsKey k key → SpellsPadded b v → SpellsMembers rest members →
      SpellsMembers (k ++ 0x3A :: (b ++ 0x2C :: rest)) ((key, v) :: members)

end

/-- The whole text is JSON and spells the value. -/
def IsText (bs : Bytes) (v : Json) : Prop := SpellsPadded bs v

/-! ## First bytes

The reader goes by the first byte that is no blank. -/

/-- The byte can start a value. -/
def Starts (b : UInt8) : Prop := isBlank b = false ∧ b ≠ 0x5D

theorem isDigit_starts {b : UInt8} (h : isDigit b = true) : Starts b := by
  have hb : 0x30 ≤ b ∧ b ≤ 0x39 := by simpa [isDigit] using h
  refine ⟨?_, ?_⟩
  · simp only [isBlank, Bool.or_eq_false_iff, beq_eq_false_iff_ne]
    refine ⟨⟨⟨?_, ?_⟩, ?_⟩, ?_⟩ <;> (rintro rfl; exact absurd hb (by decide))
  · rintro rfl
    exact absurd hb (by decide)

theorem IsNumber.head {bs : Bytes} (h : IsNumber bs) :
    ∃ c rest, bs = c :: rest ∧ (c = 0x2D ∨ isDigit c = true) := by
  obtain h | ⟨rest, _, rfl⟩ := h
  · obtain ⟨d, rest, rfl, hd⟩ := h.head
    exact ⟨d, rest, rfl, .inr hd⟩
  · exact ⟨0x2D, rest, rfl, .inl rfl⟩

theorem Spells.head {b : Bytes} {v : Json} (h : Spells b v) :
    ∃ c rest, b = c :: rest ∧ Starts c := by
  cases h with
  | null => exact ⟨0x6E, "ull", rfl, by decide, by decide⟩
  | true => exact ⟨0x74, "rue", rfl, by decide, by decide⟩
  | false => exact ⟨0x66, "alse", rfl, by decide, by decide⟩
  | number hn =>
      obtain ⟨c, rest, rfl, hc | hc⟩ := hn.head
      · exact ⟨c, rest, rfl, by rw [hc]; exact ⟨by decide, by decide⟩⟩
      · exact ⟨c, rest, rfl, isDigit_starts hc⟩
  | string _ => exact ⟨0x22, _, rfl, by decide, by decide⟩
  | emptyArray _ => exact ⟨0x5B, _, rfl, by decide, by decide⟩
  | array _ => exact ⟨0x5B, _, rfl, by decide, by decide⟩
  | emptyObject _ => exact ⟨0x7B, _, rfl, by decide, by decide⟩
  | object _ => exact ⟨0x7B, _, rfl, by decide, by decide⟩

/-- Where a value stands, the reader finds it behind the blanks. -/
theorem Spells.skipBlanks_eq {w b : Bytes} {v : Json} (h : Spells b v) (hw : Blanks w)
    (r : Bytes) : skipBlanks (w ++ (b ++ r)) = b ++ r := by
  obtain ⟨c, rest, rfl, hc, _⟩ := h.head
  rw [skipBlanks_append hw, List.cons_append, skipBlanks_cons hc]

/-! ## Soundness -/

theorem readWord_sound {word bs r : Bytes} {v u : Json} (h : readWord word v bs = some (u, r)) :
    bs = word ++ r ∧ u = v := by
  unfold readWord at h
  split at h
  · rename_i rest hrest
    simp only [Option.some.injEq, Prod.mk.injEq] at h
    exact ⟨h.2 ▸ Bytes.after?_eq_some_iff.mp hrest, h.1.symm⟩
  · simp at h

theorem readScalar_sound {bs r : Bytes} {v : Json} (h : readScalar bs = some (v, r)) :
    ∃ b, bs = b ++ r ∧ Spells b v := by
  unfold readScalar at h
  split at h
  · split at h
    · rename_i text rest hread
      simp only [Option.some.injEq, Prod.mk.injEq] at h
      obtain ⟨rfl, rfl⟩ := h
      obtain ⟨b, ps, rfl, hps, rfl⟩ := readString_sound hread
      exact ⟨0x22 :: (b ++ [0x22]), by simp, .string hps⟩
    · simp at h
  · obtain ⟨rfl, rfl⟩ := readWord_sound h
    exact ⟨"null", rfl, .null⟩
  · obtain ⟨rfl, rfl⟩ := readWord_sound h
    exact ⟨"true", rfl, .true⟩
  · obtain ⟨rfl, rfl⟩ := readWord_sound h
    exact ⟨"false", rfl, .false⟩
  · split at h
    · rename_i spelling rest hread
      simp only [Option.some.injEq, Prod.mk.injEq] at h
      obtain ⟨rfl, rfl⟩ := h
      obtain ⟨hbs, hnum⟩ := readNumber_sound hread
      exact ⟨spelling, hbs, .number hnum⟩
    · simp at h

theorem readKey_sound {bs key r : Bytes} (h : readKey bs = some (key, r)) :
    ∃ k, bs = k ++ 0x3A :: r ∧ SpellsKey k key := by
  unfold readKey at h
  obtain ⟨w, hw, hbs⟩ := exists_blanks bs
  split at h
  · rename_i rest hskip
    split at h
    · simp at h
    · rename_i text rest₁ hread
      obtain ⟨w', hw', hrest₁⟩ := exists_blanks rest₁
      obtain ⟨b, ps, hrest, hps, htext⟩ := readString_sound hread
      split at h
      · rename_i rest₂ hcolon
        simp only [Option.some.injEq, Prod.mk.injEq] at h
        obtain ⟨rfl, rfl⟩ := h
        refine ⟨w ++ 0x22 :: (b ++ 0x22 :: w'), ?_, w, b, ps, w', hw, hps, hw', htext, rfl⟩
        rw [hbs, hskip, hrest, hrest₁, hcolon]
        simp
      · simp at h
  · simp at h

/-- What the reader of values promises at a depth. -/
def ValueSound (depth : Nat) : Prop :=
  ∀ {bs r : Bytes} {v : Json}, readValue depth bs = some (v, r) →
    ∃ w b, Blanks w ∧ Spells b v ∧ bs = w ++ (b ++ r)

/-- What the reader of items promises at a depth. -/
def ItemsSound (depth : Nat) : Prop :=
  ∀ {bs r : Bytes} {items : List Json}, readItems depth bs = some (items, r) →
    ∃ b, SpellsItems b items ∧ bs = b ++ 0x5D :: r

/-- What the reader of members promises at a depth. -/
def MembersSound (depth : Nat) : Prop :=
  ∀ {bs r : Bytes} {members : Members}, readMembers depth bs = some (members, r) →
    ∃ b, SpellsMembers b members ∧ bs = b ++ 0x7D :: r

theorem skipBlanks_idem (bs : Bytes) : skipBlanks (skipBlanks bs) = skipBlanks bs := by
  obtain ⟨w, hw, hbs⟩ := exists_blanks bs
  calc skipBlanks (skipBlanks bs) = skipBlanks (w ++ skipBlanks bs) := (skipBlanks_append hw _).symm
    _ = skipBlanks bs := by rw [← hbs]

theorem readValue_skipBlanks (depth : Nat) (bs : Bytes) :
    readValue depth (skipBlanks bs) = readValue depth bs := by
  cases depth with
  | zero => simp [readValue]
  | succ depth => rw [readValue, readValue, skipBlanks_idem]

theorem readItems_skipBlanks (depth : Nat) (bs : Bytes) :
    readItems depth (skipBlanks bs) = readItems depth bs := by
  cases depth with
  | zero => simp [readItems]
  | succ depth => rw [readItems, readItems, readValue_skipBlanks]

theorem readMembers_skipBlanks (depth : Nat) (bs : Bytes) :
    readMembers depth (skipBlanks bs) = readMembers depth bs := by
  cases depth with
  | zero => simp [readMembers]
  | succ depth => rw [readMembers, readMembers, readKey, readKey, skipBlanks_idem]

theorem valueSound_succ {depth : Nat} (hitems : ItemsSound depth) (hmembers : MembersSound depth) :
    ValueSound (depth + 1) := by
  intro bs r v h
  obtain ⟨w, hw, hbs⟩ := exists_blanks bs
  rw [readValue] at h
  split at h
  · rename_i rest hskip
    rw [hskip] at hbs
    obtain ⟨w', hw', hrest⟩ := exists_blanks rest
    split at h
    · rename_i rest' hclose
      simp only [Option.some.injEq, Prod.mk.injEq] at h
      obtain ⟨rfl, rfl⟩ := h
      refine ⟨w, 0x5B :: (w' ++ [0x5D]), hw, .emptyArray hw', ?_⟩
      rw [hbs, hrest, hclose]
      simp
    · rw [readItems_skipBlanks] at h
      split at h
      · rename_i items rest' hread
        simp only [Option.some.injEq, Prod.mk.injEq] at h
        obtain ⟨rfl, rfl⟩ := h
        obtain ⟨b, hb, rfl⟩ := hitems hread
        exact ⟨w, 0x5B :: (b ++ [0x5D]), hw, .array hb, by rw [hbs]; simp⟩
      · simp at h
  · rename_i rest hskip
    rw [hskip] at hbs
    obtain ⟨w', hw', hrest⟩ := exists_blanks rest
    split at h
    · rename_i rest' hclose
      simp only [Option.some.injEq, Prod.mk.injEq] at h
      obtain ⟨rfl, rfl⟩ := h
      refine ⟨w, 0x7B :: (w' ++ [0x7D]), hw, .emptyObject hw', ?_⟩
      rw [hbs, hrest, hclose]
      simp
    · rw [readMembers_skipBlanks] at h
      split at h
      · rename_i members rest' hread
        simp only [Option.some.injEq, Prod.mk.injEq] at h
        obtain ⟨rfl, rfl⟩ := h
        obtain ⟨b, hb, rfl⟩ := hmembers hread
        exact ⟨w, 0x7B :: (b ++ [0x7D]), hw, .object hb, by rw [hbs]; simp⟩
      · simp at h
  · obtain ⟨b, hb, hv⟩ := readScalar_sound h
    exact ⟨w, b, hw, hv, hb ▸ hbs⟩

theorem itemsSound_succ {depth : Nat} (hvalue : ValueSound depth) (hitems : ItemsSound depth) :
    ItemsSound (depth + 1) := by
  intro bs r items h
  rw [readItems] at h
  split at h
  · simp at h
  · rename_i v rest hread
    obtain ⟨w, b, hw, hv, hbs⟩ := hvalue hread
    obtain ⟨w', hw', hrest⟩ := exists_blanks rest
    have hpad : SpellsPadded (w ++ (b ++ w')) v := .mk hw hv hw'
    split at h
    · rename_i rest' hclose
      simp only [Option.some.injEq, Prod.mk.injEq] at h
      obtain ⟨rfl, rfl⟩ := h
      exact ⟨_, .last hpad, by rw [hbs, hrest, hclose]; simp⟩
    · rename_i rest' hcomma
      split at h
      · rename_i others rest'' hmore
        simp only [Option.some.injEq, Prod.mk.injEq] at h
        obtain ⟨rfl, rfl⟩ := h
        obtain ⟨c, hc, rfl⟩ := hitems hmore
        exact ⟨_, .more hpad hc, by rw [hbs, hrest, hcomma]; simp⟩
      · simp at h
    · simp at h

theorem membersSound_succ {depth : Nat} (hvalue : ValueSound depth)
    (hmembers : MembersSound depth) : MembersSound (depth + 1) := by
  intro bs r members h
  rw [readMembers] at h
  split at h
  · simp at h
  · rename_i key rest₀ hkey
    obtain ⟨k, hbs, hk⟩ := readKey_sound hkey
    split at h
    · simp at h
    · rename_i v rest hread
      obtain ⟨w, b, hw, hv, hrest₀⟩ := hvalue hread
      obtain ⟨w', hw', hrest⟩ := exists_blanks rest
      have hpad : SpellsPadded (w ++ (b ++ w')) v := .mk hw hv hw'
      split at h
      · rename_i rest' hclose
        simp only [Option.some.injEq, Prod.mk.injEq] at h
        obtain ⟨rfl, rfl⟩ := h
        exact ⟨_, .last hk hpad, by rw [hbs, hrest₀, hrest, hclose]; simp⟩
      · rename_i rest' hcomma
        split at h
        · rename_i others rest'' hmore
          simp only [Option.some.injEq, Prod.mk.injEq] at h
          obtain ⟨rfl, rfl⟩ := h
          obtain ⟨c, hc, rfl⟩ := hmembers hmore
          exact ⟨_, .more hk hpad hc, by rw [hbs, hrest₀, hrest, hcomma]; simp⟩
        · simp at h
      · simp at h

/-- All three readers are sound at every depth: each is sound one level further down once all are
sound at a level. -/
theorem readers_sound (depth : Nat) :
    ValueSound depth ∧ ItemsSound depth ∧ MembersSound depth := by
  induction depth with
  | zero =>
      refine ⟨?_, ?_, ?_⟩
      · intro bs r v h
        simp [readValue] at h
      · intro bs r items h
        simp [readItems] at h
      · intro bs r members h
        simp [readMembers] at h
  | succ depth ih =>
      obtain ⟨hvalue, hitems, hmembers⟩ := ih
      exact ⟨valueSound_succ hitems hmembers, itemsSound_succ hvalue hitems,
        membersSound_succ hvalue hmembers⟩

/-! ## Completeness -/

theorem Blanks.ends_append {w r : Bytes} (hw : Blanks w) (hr : Ends r) : Ends (w ++ r) := by
  cases w with
  | nil => exact hr
  | cons b w =>
      intro c hc
      obtain rfl : b = c := by simpa using hc
      have hb := hw b (by simp)
      simp only [isBlank, Bool.or_eq_true, beq_iff_eq] at hb
      obtain ((rfl | rfl) | rfl) | rfl := hb <;> decide

theorem ends_nil : Ends [] := by
  intro b hb
  simp at hb

theorem ends_cons {b : UInt8} (hb : isDigit b = false ∧ b ≠ 0x2E ∧ b ≠ 0x65 ∧ b ≠ 0x45)
    (r : Bytes) : Ends (b :: r) := by
  intro c hc
  obtain rfl : b = c := by simpa using hc
  exact hb

theorem readWord_complete (word r : Bytes) (v : Json) :
    readWord word v (word ++ r) = some (v, r) := by
  simp [readWord, Bytes.after?_eq_some_iff.mpr rfl]

theorem readScalar_number {bs r : Bytes} (h : IsNumber bs) (hr : Ends r) :
    readScalar (bs ++ r) = some (.number bs, r) := by
  have hread := readNumber_complete h hr
  obtain ⟨c, rest, rfl, hc⟩ := h.head
  -- No other scalar starts with a digit or a minus.
  have hother : ∀ b ∈ [(0x22 : UInt8), 0x6E, 0x74, 0x66], c ≠ b := by
    rintro b hb rfl
    obtain rfl | hc := hc
    · exact absurd hb (by decide)
    · simp only [List.mem_cons, List.not_mem_nil, or_false] at hb
      obtain rfl | rfl | rfl | rfl := hb <;> exact absurd hc (by decide)
  rw [List.cons_append] at hread ⊢
  unfold readScalar
  split
  · rename_i heq
    exact absurd (List.cons.inj heq).1 (hother _ (by simp))
  · rename_i heq
    exact absurd (List.cons.inj heq).1 (hother _ (by simp))
  · rename_i heq
    exact absurd (List.cons.inj heq).1 (hother _ (by simp))
  · rename_i heq
    exact absurd (List.cons.inj heq).1 (hother _ (by simp))
  · rw [hread]

theorem readKey_complete {k key : Bytes} (h : SpellsKey k key) (r : Bytes) :
    readKey (k ++ 0x3A :: r) = some (key, r) := by
  obtain ⟨w, b, ps, w', hw, hps, hw', rfl, rfl⟩ := h
  have hopen : skipBlanks (w ++ 0x22 :: (b ++ 0x22 :: w') ++ 0x3A :: r) =
      0x22 :: (b ++ 0x22 :: (w' ++ 0x3A :: r)) := by
    rw [List.append_assoc, skipBlanks_append hw, List.cons_append, skipBlanks_cons (by decide)]
    simp
  have hcolon : skipBlanks (w' ++ 0x3A :: r) = 0x3A :: r := by
    rw [skipBlanks_append hw', skipBlanks_cons (by decide)]
  simp only [readKey, hopen, readString_complete hps, hcolon]

/-- The reader of values finds every value that the depth leaves room for. -/
def ValueComplete (depth : Nat) : Prop :=
  ∀ {w b r : Bytes} {v : Json}, Blanks w → Spells b v → Ends r → 2 * b.length ≤ depth →
    readValue depth (w ++ (b ++ r)) = some (v, r)

/-- The reader of items finds all items that the depth leaves room for. -/
def ItemsComplete (depth : Nat) : Prop :=
  ∀ {b r : Bytes} {items : List Json}, SpellsItems b items → 2 * b.length < depth →
    readItems depth (b ++ 0x5D :: r) = some (items, r)

/-- The reader of members finds all members that the depth leaves room for. -/
def MembersComplete (depth : Nat) : Prop :=
  ∀ {b r : Bytes} {members : Members}, SpellsMembers b members → 2 * b.length < depth →
    readMembers depth (b ++ 0x7D :: r) = some (members, r)

/-- Items do not start with the bracket that would close an empty array. -/
theorem SpellsItems.skipBlanks_ne {b : Bytes} {items : List Json} (h : SpellsItems b items)
    (r rest : Bytes) : skipBlanks (b ++ r) ≠ 0x5D :: rest := by
  have hpad : ∀ {c s : Bytes} {v : Json}, SpellsPadded c v →
      skipBlanks (c ++ s) ≠ 0x5D :: rest := by
    rintro _ s v ⟨hw, hv, _⟩ heq
    obtain ⟨x, y, hb, _, hx⟩ := hv.head
    rw [List.append_assoc, List.append_assoc, hv.skipBlanks_eq hw, hb] at heq
    exact hx (List.cons.inj heq).1
  cases h with
  | last hv => exact hpad hv
  | more hv _ =>
      rw [List.append_assoc]
      exact hpad hv

/-- Members do not start with the brace that would close an empty object. -/
theorem SpellsMembers.skipBlanks_ne {b : Bytes} {members : Members} (h : SpellsMembers b members)
    (r rest : Bytes) : skipBlanks (b ++ r) ≠ 0x7D :: rest := by
  have hkey : ∀ {k key s : Bytes}, SpellsKey k key → skipBlanks (k ++ s) ≠ 0x7D :: rest := by
    rintro _ key s ⟨w, c, ps, w', hw, _, _, _, rfl⟩ heq
    rw [List.append_assoc, skipBlanks_append hw, List.cons_append,
      skipBlanks_cons (by decide)] at heq
    exact absurd (List.cons.inj heq).1 (by decide)
  cases h with
  | last hk _ =>
      rw [List.append_assoc]
      exact hkey hk
  | more hk _ _ =>
      rw [List.append_assoc]
      exact hkey hk

theorem valueComplete_succ {depth : Nat} (hitems : ItemsComplete depth)
    (hmembers : MembersComplete depth) : ValueComplete (depth + 1) := by
  intro w b r v hw hv hr hdepth
  rw [readValue, hv.skipBlanks_eq hw]
  cases hv with
  | null => exact readWord_complete "ull" r .null
  | true => exact readWord_complete "rue" r (.bool true)
  | false => exact readWord_complete "alse" r (.bool false)
  | number hn =>
      obtain ⟨c, rest, hb, hc⟩ := hn.head
      split
      · rename_i heq
        rw [hb, List.cons_append] at heq
        rw [(List.cons.inj heq).1] at hc
        exact absurd hc (by decide)
      · rename_i heq
        rw [hb, List.cons_append] at heq
        rw [(List.cons.inj heq).1] at hc
        exact absurd hc (by decide)
      · exact readScalar_number hn hr
  | @string bs ps hps =>
      have hscalar : readScalar (0x22 :: (bs ++ 0x22 :: r)) = some (.string (unescape ps), r) := by
        simp only [readScalar, readString_complete hps r]
      simp only [List.cons_append, List.append_assoc, List.nil_append]
      exact hscalar
  | @emptyArray w' hw' =>
      have hclose : skipBlanks (w' ++ 0x5D :: r) = 0x5D :: r := by
        rw [skipBlanks_append hw', skipBlanks_cons (by decide)]
      simp only [List.cons_append, List.append_assoc, List.nil_append, hclose]
  | @array bs items hbs =>
      simp only [List.cons_append, List.append_assoc, List.nil_append]
      split
      · rename_i heq
        exact absurd heq (hbs.skipBlanks_ne _ _)
      · have hroom : 2 * bs.length < depth := by
          simp only [List.length_cons, List.length_append, List.length_nil] at hdepth
          omega
        rw [readItems_skipBlanks, hitems hbs hroom]
  | @emptyObject w' hw' =>
      have hclose : skipBlanks (w' ++ 0x7D :: r) = 0x7D :: r := by
        rw [skipBlanks_append hw', skipBlanks_cons (by decide)]
      simp only [List.cons_append, List.append_assoc, List.nil_append, hclose]
  | @object bs members hbs =>
      simp only [List.cons_append, List.append_assoc, List.nil_append]
      split
      · rename_i heq
        exact absurd heq (hbs.skipBlanks_ne _ _)
      · have hroom : 2 * bs.length < depth := by
          simp only [List.length_cons, List.length_append, List.length_nil] at hdepth
          omega
        rw [readMembers_skipBlanks, hmembers hbs hroom]

/-- What the reader of values does with a padded value: the blanks behind it are left. -/
theorem ValueComplete.padded {depth : Nat} (hvalue : ValueComplete depth) {b r : Bytes} {v : Json}
    (h : SpellsPadded b v) (hr : Ends r) (hdepth : 2 * b.length ≤ depth) :
    ∃ rest, readValue depth (b ++ r) = some (v, rest) ∧ skipBlanks rest = skipBlanks r := by
  obtain @⟨w, b, w', _, hw, hv, hw'⟩ := h
  refine ⟨w' ++ r, ?_, skipBlanks_append hw' r⟩
  have hroom : 2 * b.length ≤ depth := by
    simp only [List.length_append] at hdepth
    omega
  simpa using hvalue hw hv (hw'.ends_append hr) hroom

theorem itemsComplete_succ {depth : Nat} (hvalue : ValueComplete depth)
    (hitems : ItemsComplete depth) : ItemsComplete (depth + 1) := by
  intro b r items h hdepth
  cases h with
  | last hv =>
      obtain ⟨rest, hread, hskip⟩ :=
        hvalue.padded hv (ends_cons (b := 0x5D) (by decide) r) (by omega)
      rw [skipBlanks_cons (by decide)] at hskip
      rw [readItems, hread]
      simp only [hskip]
  | @more c tail v others hv hrest =>
      simp only [List.length_append, List.length_cons] at hdepth
      obtain ⟨rest, hread, hskip⟩ :=
        hvalue.padded hv (ends_cons (b := 0x2C) (by decide) (tail ++ 0x5D :: r)) (by omega)
      rw [skipBlanks_cons (by decide)] at hskip
      have hmore := hitems (r := r) hrest (by omega)
      rw [List.append_assoc, List.cons_append, readItems, hread]
      simp only [hskip, hmore]

theorem membersComplete_succ {depth : Nat} (hvalue : ValueComplete depth)
    (hmembers : MembersComplete depth) : MembersComplete (depth + 1) := by
  intro b r members h hdepth
  cases h with
  | @last k key c v hk hv =>
      simp only [List.length_append, List.length_cons] at hdepth
      obtain ⟨rest, hread, hskip⟩ :=
        hvalue.padded hv (ends_cons (b := 0x7D) (by decide) r) (by omega)
      rw [skipBlanks_cons (by decide)] at hskip
      have hkey := readKey_complete hk (c ++ 0x7D :: r)
      rw [List.append_assoc, List.cons_append, readMembers]
      simp only [hkey, hread, hskip]
  | @more k key c tail v others hk hv hrest =>
      simp only [List.length_append, List.length_cons] at hdepth
      obtain ⟨rest, hread, hskip⟩ :=
        hvalue.padded hv (ends_cons (b := 0x2C) (by decide) (tail ++ 0x7D :: r)) (by omega)
      rw [skipBlanks_cons (by decide)] at hskip
      have hkey := readKey_complete hk (c ++ 0x2C :: (tail ++ 0x7D :: r))
      have hmore := hmembers (r := r) hrest (by omega)
      rw [List.append_assoc, List.cons_append, List.append_assoc, List.cons_append, readMembers]
      simp only [hkey, hread, hskip, hmore]

/-- All three readers are complete at every depth. -/
theorem readers_complete (depth : Nat) :
    ValueComplete depth ∧ ItemsComplete depth ∧ MembersComplete depth := by
  induction depth with
  | zero =>
      refine ⟨?_, ?_, ?_⟩
      · intro w b r v _ hv _ hdepth
        obtain ⟨c, rest, rfl, _⟩ := hv.head
        simp at hdepth
      · intro b r items _ hdepth
        omega
      · intro b r members _ hdepth
        omega
  | succ depth ih =>
      obtain ⟨hvalue, hitems, hmembers⟩ := ih
      exact ⟨valueComplete_succ hitems hmembers, itemsComplete_succ hvalue hitems,
        membersComplete_succ hvalue hmembers⟩

/-! ## Texts -/

/-- `parse?` accepts exactly the JSON texts and returns what they spell. -/
theorem parse?_eq_some_iff {bs : Bytes} {v : Json} : parse? bs = some v ↔ IsText bs v := by
  unfold parse?
  constructor
  · intro h
    split at h
    · rename_i u rest hread
      split at h
      · rename_i hempty
        obtain rfl : u = v := by simpa using h
        obtain ⟨w, b, hw, hv, rfl⟩ := (readers_sound _).1 hread
        exact .mk hw hv (skipBlanks_eq_nil (by simpa using hempty))
      · simp at h
    · simp at h
  · intro h
    have hvalue : ValueComplete (2 * bs.length + 2) := (readers_complete _).1
    obtain ⟨rest, hread, hskip⟩ := hvalue.padded h ends_nil (by omega)
    have hend : skipBlanks rest = [] := hskip
    rw [List.append_nil] at hread
    simp [hread, hend]

end RpcBindings.Json
