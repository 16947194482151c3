import RpcBindings.Proofs.Text.Numeral
import RpcBindings.Text.Quoted

/-!
# Quoted text can be told back

A message that quotes a name says which name it is: two texts that are quoted alike are the same
bytes, stray bytes included.  Each piece is shown in one of three ways: as itself, as a backslash
and a letter, or as a backslash, a letter and a number of fixed width.  Which way it is, and how
far it goes, can be seen from the first two bytes.
-/

set_option autoImplicit false

namespace RpcBindings

open RpcBindings.Utf8 (Piece)

/-! ## The ways to show a piece -/

/-- The character that a letter after a backslash stands for. -/
def letterChar? : UInt8 → Option Char
  | 0x22 => some '"'
  | 0x5C => some '\\'
  | 0x61 => some (Char.ofNat 0x07)
  | 0x62 => some (Char.ofNat 0x08)
  | 0x74 => some (Char.ofNat 0x09)
  | 0x6E => some (Char.ofNat 0x0A)
  | 0x76 => some (Char.ofNat 0x0B)
  | 0x66 => some (Char.ofNat 0x0C)
  | 0x72 => some (Char.ofNat 0x0D)
  | _ => none

/-- How many digits follow a letter after a backslash that announces a number. -/
def numberWidth? : UInt8 → Option Nat
  | 0x78 => some 2
  | 0x75 => some 4
  | 0x55 => some 8
  | _ => none

/-- The piece that a letter and a number stand for.  Two digits above ASCII are a stray byte. -/
def numberedPiece (letter : UInt8) (n : Nat) : Piece :=
  if letter = 0x78 ∧ 0x80 ≤ n then .stray (UInt8.ofNat n) else .char (Char.ofNat n)

/-- The bytes show the piece. -/
inductive Shows : Bytes → Piece → Prop
  | plain {c : Char} (hquote : c ≠ '"') (hslash : c ≠ '\\') :
      Shows (String.utf8EncodeChar c) (.char c)
  | letter {letter : UInt8} {c : Char} (h : letterChar? letter = some c) :
      Shows [0x5C, letter] (.char c)
  | number {letter : UInt8} {width n : Nat} (hwidth : numberWidth? letter = some width)
      (hn : n < 16 ^ width) :
      Shows (0x5C :: letter :: hexFilled width n) (numberedPiece letter n)

theorem controlLetter?_eq_some {c : Char} {bs : Bytes} (h : controlLetter? c = some bs) :
    ∃ letter, bs = [letter] ∧ letterChar? letter = some c := by
  have hc : Char.ofNat c.toNat = c := Char.ofNat_toNat c
  unfold controlLetter? at h
  split at h
  case h_8 => cases h
  all_goals
    rename_i hnat
    obtain rfl := Option.some.inj h
    rw [hnat] at hc
    exact ⟨_, rfl, congrArg some hc⟩

theorem shows_number_char {letter : UInt8} {width : Nat} (hwidth : numberWidth? letter = some width)
    {c : Char} (hc : c.toNat < 16 ^ width) (hascii : letter = 0x78 → c.toNat < 0x80) :
    Shows (0x5C :: letter :: hexFilled width c.toNat) (.char c) := by
  have hpiece : numberedPiece letter c.toNat = .char c := by
    have hletter : ¬ (letter = 0x78 ∧ 0x80 ≤ c.toNat) := fun h =>
      absurd (hascii h.1) (Nat.not_lt.mpr h.2)
    rw [numberedPiece, if_neg hletter, Char.ofNat_toNat]
  rw [← hpiece]
  exact .number hwidth hc

theorem shows_quotedChar (c : Char) : Shows (quotedChar c) (.char c) := by
  rw [quotedChar]
  split
  · rename_i hquote
    subst hquote
    exact .letter rfl
  rename_i hquote
  split
  · rename_i hslash
    subst hslash
    exact .letter rfl
  rename_i hslash
  split
  · have hplain : Utf8.encode [c] = String.utf8EncodeChar c := by simp
    rw [hplain]
    exact .plain hquote hslash
  split
  · rename_i bs hcontrol
    obtain ⟨letter, rfl, hletter⟩ := controlLetter?_eq_some hcontrol
    exact .letter hletter
  split_ifs with hcontrol hshort
  · exact shows_number_char rfl (by omega) fun _ => by omega
  · exact shows_number_char rfl hshort fun h => absurd h (by decide)
  · have hlt := Utf8.toNat_lt c
    exact shows_number_char rfl (by omega) fun h => absurd h (by decide)

theorem shows_quotedPiece {p : Piece} (h : ∀ b, p = .stray b → 0x80 ≤ b) :
    Shows (quotedPiece p) p := by
  cases p with
  | char c => exact shows_quotedChar c
  | stray b =>
      have hb : 0x80 ≤ b.toNat := UInt8.le_iff_toNat_le.mp (h b rfl)
      have hpiece : numberedPiece 0x78 b.toNat = .stray b := by
        rw [numberedPiece, if_pos ⟨rfl, hb⟩, UInt8.ofNat_toNat]
      have hshows : Shows (0x5C :: 0x78 :: hexFilled 2 b.toNat) (numberedPiece 0x78 b.toNat) :=
        .number rfl b.toNat_lt
      rwa [hpiece] at hshows

/-! ## Telling pieces apart -/

section

variable {xs ys bs cs : Bytes} {p q : Piece}

theorem pieces_utf8EncodeChar_append (c : Char) (bs : Bytes) :
    Utf8.pieces (String.utf8EncodeChar c ++ bs) = .char c :: Utf8.pieces bs := by
  have hone : String.utf8EncodeChar c = Utf8.encode [c] := by simp
  rw [hone, Utf8.pieces_append (Utf8.isValid_encode [c]), Utf8.pieces_encode]
  rfl

/-- Only the character itself begins with an ASCII byte. -/
theorem eq_ofNat_of_utf8EncodeChar_append {c : Char} {b : UInt8} (hb : b < 0x80)
    (h : String.utf8EncodeChar c ++ bs = b :: cs) : c = Char.ofNat b.toNat := by
  have hpieces := congrArg Utf8.pieces h
  rw [pieces_utf8EncodeChar_append, Utf8.pieces_cons_of_lt hb] at hpieces
  exact Piece.char.inj (List.cons.inj hpieces).1

theorem numberWidth?_of_letterChar? {letter : UInt8} {c : Char} (h : letterChar? letter = some c) :
    numberWidth? letter = none := by
  unfold letterChar? at h
  split at h
  case h_10 => cases h
  all_goals rfl

theorem pos_of_numberWidth? {letter : UInt8} {width : Nat}
    (h : numberWidth? letter = some width) : 0 < width := by
  unfold numberWidth? at h
  split at h <;> cases h <;> decide

/-- A piece that is shown otherwise than as itself begins with a backslash. -/
theorem Shows.plain_or_slash (h : Shows xs p) :
    (∃ c, c ≠ '"' ∧ c ≠ '\\' ∧ xs = String.utf8EncodeChar c ∧ p = .char c) ∨
      ∃ rest, xs = 0x5C :: rest := by
  cases h with
  | plain hquote hslash => exact .inl ⟨_, hquote, hslash, rfl, rfl⟩
  | letter => exact .inr ⟨_, rfl⟩
  | number => exact .inr ⟨_, rfl⟩

/-- No piece is shown with a quote in front: the closing quote can be told. -/
theorem Shows.append_ne_quote (h : Shows xs p) : xs ++ bs ≠ 0x22 :: cs := by
  intro heq
  obtain ⟨c, hquote, _, rfl, _⟩ | ⟨rest, rfl⟩ := h.plain_or_slash
  · exact hquote (eq_ofNat_of_utf8EncodeChar_append (by decide) heq)
  · cases heq

/-- What is shown first can be told from what is written behind it. -/
theorem Shows.append_inj (hx : Shows xs p) (hy : Shows ys q) (h : xs ++ bs = ys ++ cs) :
    p = q ∧ bs = cs := by
  cases hx with
  | @plain c hquote hslash =>
      obtain ⟨d, _, _, rfl, rfl⟩ | ⟨rest, rfl⟩ := hy.plain_or_slash
      · have hpieces := congrArg Utf8.pieces h
        rw [pieces_utf8EncodeChar_append, pieces_utf8EncodeChar_append] at hpieces
        obtain rfl := Piece.char.inj (List.cons.inj hpieces).1
        exact ⟨rfl, List.append_cancel_left h⟩
      · exact absurd (eq_ofNat_of_utf8EncodeChar_append (by decide) h) hslash
  | letter hletter =>
      cases hy with
      | plain _ hslash =>
          exact absurd (eq_ofNat_of_utf8EncodeChar_append (by decide) h.symm) hslash
      | letter hletter' =>
          obtain ⟨rfl, rfl⟩ := List.cons.inj (List.cons.inj h).2
          obtain rfl := Option.some.inj (hletter.symm.trans hletter')
          exact ⟨rfl, rfl⟩
      | number hwidth =>
          obtain ⟨rfl, _⟩ := List.cons.inj (List.cons.inj h).2
          cases hwidth.symm.trans (numberWidth?_of_letterChar? hletter)
  | number hwidth hn =>
      cases hy with
      | plain _ hslash =>
          exact absurd (eq_ofNat_of_utf8EncodeChar_append (by decide) h.symm) hslash
      | letter hletter =>
          obtain ⟨rfl, _⟩ := List.cons.inj (List.cons.inj h).2
          cases hwidth.symm.trans (numberWidth?_of_letterChar? hletter)
      | number hwidth' hn' =>
          obtain ⟨rfl, hrest⟩ := List.cons.inj (List.cons.inj h).2
          obtain rfl := Option.some.inj (hwidth.symm.trans hwidth')
          obtain ⟨rfl, rfl⟩ := hexFilled_append_inj (pos_of_numberWidth? hwidth) hn hn' hrest
          exact ⟨rfl, rfl⟩

end

/-! ## Telling texts apart -/

theorem le_of_stray_mem_piecesFrom {k : Nat} {bs : Bytes} {b : UInt8}
    (h : Piece.stray b ∈ Utf8.piecesFrom k bs) : 0x80 ≤ b := by
  induction bs generalizing k with
  | nil => simp [Utf8.piecesFrom] at h
  | cons a rest ih =>
      cases k with
      | succ k => exact ih h
      | zero =>
          cases hlead : Utf8.lead? a rest with
          | some p =>
              simp only [Utf8.piecesFrom, hlead, List.mem_cons, reduceCtorEq, false_or] at h
              exact ih h
          | none =>
              simp only [Utf8.piecesFrom, hlead, List.mem_cons, Piece.stray.injEq] at h
              obtain rfl | h := h
              · by_contra hlt
                simp [Utf8.lead?, UInt8.not_le.mp hlt] at hlead
              · exact ih h

theorem shows_of_mem_pieces {bs : Bytes} {p : Piece} (h : p ∈ Utf8.pieces bs) :
    Shows (quotedPiece p) p := by
  apply shows_quotedPiece
  rintro b rfl
  exact le_of_stray_mem_piecesFrom h

/-- Pieces that are shown alike up to the closing quote are the same. -/
theorem flatMap_quotedPiece_inj {ps qs : List Piece} (hps : ∀ p ∈ ps, Shows (quotedPiece p) p)
    (hqs : ∀ q ∈ qs, Shows (quotedPiece q) q)
    (h : ps.flatMap quotedPiece ++ [0x22] = qs.flatMap quotedPiece ++ [0x22]) : ps = qs := by
  induction ps generalizing qs with
  | nil =>
      cases qs with
      | nil => rfl
      | cons q qs =>
          rw [List.flatMap_cons, List.append_assoc] at h
          exact absurd h.symm (hqs q (by simp)).append_ne_quote
  | cons p ps ih =>
      cases qs with
      | nil =>
          rw [List.flatMap_cons, List.append_assoc] at h
          exact absurd h (hps p (by simp)).append_ne_quote
      | cons q qs =>
          rw [List.flatMap_cons, List.flatMap_cons, List.append_assoc, List.append_assoc] at h
          obtain ⟨rfl, hrest⟩ := (hps p (by simp)).append_inj (hqs q (by simp)) h
          rw [ih (fun r hr => hps r (by simp [hr])) (fun r hr => hqs r (by simp [hr])) hrest]

/-- A quoted text can be told back. -/
theorem quote_injective : Function.Injective quote := by
  intro s t h
  have hpieces : Utf8.pieces s = Utf8.pieces t :=
    flatMap_quotedPiece_inj (fun _ => shows_of_mem_pieces) (fun _ => shows_of_mem_pieces)
      (List.cons.inj h).2
  rw [← Utf8.flatMap_bytes_pieces s, hpieces, Utf8.flatMap_bytes_pieces]

/-! ## Quoted words -/

/-- Only a blank is shown with a blank. -/
theorem Shows.space_notMem {bs : Bytes} {p : Piece} (h : Shows bs p) (hp : p ≠ .char ' ') :
    0x20 ∉ bs := by
  intro hmem
  cases h with
  | @plain c _ _ =>
      have hencode : (0x20 : UInt8) ∈ Utf8.encode [c] := by simpa using hmem
      have hc : ' ' = c := List.mem_singleton.mp (Utf8.mem_of_mem_encode (by decide) hencode)
      exact hp (congrArg Piece.char hc.symm)
  | letter hletter =>
      rw [List.mem_cons, List.mem_singleton] at hmem
      obtain hslash | hblank := hmem
      · cases hslash
      · rw [← hblank] at hletter
        cases hletter
  | number hwidth =>
      rw [List.mem_cons, List.mem_cons] at hmem
      obtain hslash | hletter | hdigit := hmem
      · cases hslash
      · rw [← hletter] at hwidth
        cases hwidth
      · exact space_notMem_hexFilled _ _ hdigit

/-- A text without a blank is quoted without one. -/
theorem space_notMem_quote {bs : Bytes} (h : 0x20 ∉ bs) : 0x20 ∉ quote bs := by
  have hpieces : 0x20 ∉ (Utf8.pieces bs).flatMap quotedPiece := by
    intro hmem
    obtain ⟨p, hp, hquoted⟩ := List.mem_flatMap.mp hmem
    refine (shows_of_mem_pieces hp).space_notMem ?_ hquoted
    rintro rfl
    -- The bytes of the pieces are those of the text.
    apply h
    rw [← Utf8.flatMap_bytes_pieces bs]
    exact List.mem_flatMap.mpr ⟨_, hp, by decide⟩
  rw [quote, List.mem_append, List.mem_append, not_or, not_or]
  exact ⟨⟨by decide, hpieces⟩, by decide⟩

end RpcBindings
