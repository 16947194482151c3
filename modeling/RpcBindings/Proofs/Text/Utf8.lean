import Mathlib.Data.List.Basic
import RpcBindings.Text.Trim

/-!
# Reading and writing characters

Decoding undoes encoding, and a byte string with no stray byte can be read on its own: what is
written behind it does not change how it is read.  So a text that is put together from well-formed
parts is read part by part.  The pieces of any byte string, stray bytes included, give back its
bytes.
-/

set_option autoImplicit false

namespace RpcBindings.Utf8

/-! ## Reading on with more behind -/

theorem tails?_append {high n m : Nat} {bs : Bytes} (h : tails? high n bs = some m)
    (more : Bytes) : tails? high n (bs ++ more) = some m ∧ n ≤ bs.length := by
  induction n generalizing high bs with
  | zero => exact ⟨by simpa [tails?] using h, Nat.zero_le _⟩
  | succ n ih =>
      cases bs with
      | nil => simp [tails?] at h
      | cons b rest =>
          unfold tails? at h
          cases ht : tail? b with
          | none => simp [ht] at h
          | some low =>
              rw [ht] at h
              obtain ⟨hmore, hlength⟩ := ih h
              refine ⟨?_, by simpa using hlength⟩
              rw [List.cons_append, tails?, ht]
              exact hmore

theorem tails?_bind_scalar?_append {high n least k : Nat} {rest : Bytes} {c : Char}
    (h : ((tails? high n rest).bind fun m => (scalar? least m).map (·, n)) = some (c, k))
    (more : Bytes) :
    ((tails? high n (rest ++ more)).bind fun m => (scalar? least m).map (·, n)) = some (c, k) ∧
      k ≤ rest.length := by
  obtain ⟨m, hm, hc⟩ := Option.bind_eq_some_iff.mp h
  obtain ⟨hmore, hlength⟩ := tails?_append hm more
  refine ⟨by rw [hmore]; exact hc, ?_⟩
  obtain ⟨_, _, heq⟩ := Option.map_eq_some_iff.mp hc
  rw [← (Prod.mk.inj heq).2]
  exact hlength

theorem lead?_append {b : UInt8} {rest : Bytes} {c : Char} {n : Nat}
    (h : lead? b rest = some (c, n)) (more : Bytes) :
    lead? b (rest ++ more) = some (c, n) ∧ n ≤ rest.length := by
  unfold lead? at h ⊢
  split_ifs at h ⊢
  · obtain ⟨_, rfl⟩ := Prod.mk.inj (Option.some.inj h)
    exact ⟨h, Nat.zero_le _⟩
  · exact tails?_bind_scalar?_append h more
  · exact tails?_bind_scalar?_append h more
  · exact tails?_bind_scalar?_append h more

/-- A piece that is a character. -/
def Piece.isChar : Piece → Bool
  | .char _ => true
  | .stray _ => false

theorem isValid_eq (bs : Bytes) : isValid bs = (pieces bs).all Piece.isChar := by
  unfold isValid
  congr 1

theorem piecesFrom_append {k : Nat} {bs : Bytes} (hk : k ≤ bs.length)
    (h : (piecesFrom k bs).all Piece.isChar = true) (more : Bytes) :
    piecesFrom k (bs ++ more) = piecesFrom k bs ++ piecesFrom 0 more := by
  induction bs generalizing k with
  | nil =>
      obtain rfl : k = 0 := by simpa using hk
      rfl
  | cons b rest ih =>
      cases k with
      | succ k =>
          simp only [List.cons_append, piecesFrom] at h ⊢
          exact ih (by simpa using hk) h
      | zero =>
          cases hlead : lead? b rest with
          | none => simp [piecesFrom, hlead, Piece.isChar] at h
          | some p =>
              obtain ⟨c, n⟩ := p
              obtain ⟨hmore, hn⟩ := lead?_append hlead more
              simp only [List.cons_append, piecesFrom, hlead, hmore] at h ⊢
              rw [ih hn (by simpa [Piece.isChar] using h)]

theorem pieces_append {bs : Bytes} (h : isValid bs = true) (more : Bytes) :
    pieces (bs ++ more) = pieces bs ++ pieces more :=
  piecesFrom_append (Nat.zero_le _) (by rwa [isValid_eq] at h) more

theorem runes_append {bs : Bytes} (h : isValid bs = true) (more : Bytes) :
    runes (bs ++ more) = runes bs ++ runes more := by
  unfold runes
  rw [pieces_append h, List.map_append]

theorem isValid_append {bs more : Bytes} (h : isValid bs = true) (hmore : isValid more = true) :
    isValid (bs ++ more) = true := by
  rw [isValid_eq, pieces_append h, List.all_append, ← isValid_eq, ← isValid_eq, h, hmore]
  rfl

/-- A text in which nothing is read as the replacement character has no stray byte. -/
theorem isValid_of_runes {bs : Bytes} (h : ∀ c ∈ runes bs, c ≠ replacement) :
    isValid bs = true := by
  rw [isValid_eq, List.all_eq_true]
  intro p hp
  cases p with
  | char c => rfl
  | stray b => exact absurd rfl (h _ (List.mem_map.mpr ⟨.stray b, hp, rfl⟩))

/-! ## Reading what was written -/

theorem toNat_ofNat {n : Nat} (h : n < 256) : (UInt8.ofNat n).toNat = n := by
  rw [UInt8.toNat_ofNat']
  exact Nat.mod_eq_of_lt h

theorem ofNat_lt {n : Nat} {b : UInt8} (h : n < 256) : UInt8.ofNat n < b ↔ n < b.toNat := by
  rw [UInt8.lt_iff_toNat_lt, toNat_ofNat h]

theorem tail?_ofNat {n : Nat} (h : n < 64) : tail? (UInt8.ofNat (n + 128)) = some n := by
  have hn : n + 128 < 256 := by omega
  unfold tail?
  rw [if_pos, toNat_ofNat hn, Nat.add_sub_cancel]
  rw [UInt8.le_iff_toNat_le, toNat_ofNat hn, ofNat_lt hn]
  exact ⟨Nat.le_add_left _ _, Nat.add_lt_add_right h 128⟩

theorem scalar?_toNat {least : Nat} {c : Char} (h : least ≤ c.toNat) :
    scalar? least c.toNat = some c := by
  unfold scalar?
  rw [if_pos ⟨h, c.valid⟩, Char.ofNat_toNat]

/-- The first byte of a character, by its number. -/
theorem lead?_ofNat {n : Nat} (h : n < 256) (rest : Bytes) :
    lead? (UInt8.ofNat n) rest =
      if n < 0x80 then some (Char.ofNat n, 0)
      else if n < 0xC0 then none
      else if n < 0xE0 then
        (tails? (n - 0xC0) 1 rest).bind fun m => (scalar? 0x80 m).map (·, 1)
      else if n < 0xF0 then
        (tails? (n - 0xE0) 2 rest).bind fun m => (scalar? 0x800 m).map (·, 2)
      else if n < 0xF8 then
        (tails? (n - 0xF0) 3 rest).bind fun m => (scalar? 0x10000 m).map (·, 3)
      else none := by
  unfold lead?
  simp only [ofNat_lt h, toNat_ofNat h]
  rfl

theorem toNat_lt (c : Char) : c.toNat < 0x110000 := by
  obtain h | h := c.valid
  · exact Nat.lt_trans h (by decide)
  · exact h.2

/-- The first byte of a character's encoding leads to the character and to the end of its
encoding. -/
theorem lead?_utf8EncodeChar (c : Char) (more : Bytes) :
    ∃ b rest, String.utf8EncodeChar c = b :: rest ∧
      lead? b (rest ++ more) = some (c, rest.length) := by
  have hlt := toNat_lt c
  have hval : c.val.toNat = c.toNat := rfl
  unfold String.utf8EncodeChar
  simp only [hval]
  split_ifs with h1 h2 h3
  · refine ⟨_, [], rfl, ?_⟩
    rw [lead?_ofNat (by omega), if_pos (by omega), Char.ofNat_toNat]
    rfl
  · refine ⟨_, _, rfl, ?_⟩
    have hsum : (c.toNat / 64 % 32 + 192 - 192) * 64 + c.toNat % 64 = c.toNat := by omega
    rw [lead?_ofNat (by omega), if_neg (by omega), if_neg (by omega), if_pos (by omega)]
    simp only [List.cons_append, tails?, tail?_ofNat (Nat.mod_lt _ (by decide : 0 < 64)), hsum,
      Option.bind_some, scalar?_toNat (show 0x80 ≤ c.toNat by omega)]
    rfl
  · refine ⟨_, _, rfl, ?_⟩
    have hsum : ((c.toNat / 4096 % 16 + 224 - 224) * 64 + c.toNat / 64 % 64) * 64 +
        c.toNat % 64 = c.toNat := by omega
    rw [lead?_ofNat (by omega), if_neg (by omega), if_neg (by omega), if_neg (by omega),
      if_pos (by omega)]
    simp only [List.cons_append, tails?, tail?_ofNat (Nat.mod_lt _ (by decide : 0 < 64)), hsum,
      Option.bind_some, scalar?_toNat (show 0x800 ≤ c.toNat by omega)]
    rfl
  · refine ⟨_, _, rfl, ?_⟩
    have hsum : (((c.toNat / 262144 % 8 + 240 - 240) * 64 + c.toNat / 4096 % 64) * 64 +
        c.toNat / 64 % 64) * 64 + c.toNat % 64 = c.toNat := by omega
    rw [lead?_ofNat (by omega), if_neg (by omega), if_neg (by omega), if_neg (by omega),
      if_neg (by omega), if_pos (by omega)]
    simp only [List.cons_append, tails?, tail?_ofNat (Nat.mod_lt _ (by decide : 0 < 64)), hsum,
      Option.bind_some, scalar?_toNat (show 0x10000 ≤ c.toNat by omega)]
    rfl

theorem piecesFrom_length (bs more : Bytes) :
    piecesFrom bs.length (bs ++ more) = piecesFrom 0 more := by
  induction bs with
  | nil => rfl
  | cons b rest ih => exact ih

theorem pieces_encode (cs : List Char) : pieces (encode cs) = cs.map Piece.char := by
  induction cs with
  | nil => rfl
  | cons c cs ih =>
      obtain ⟨b, rest, hc, hlead⟩ := lead?_utf8EncodeChar c (encode cs)
      rw [encode_cons, hc, List.cons_append, pieces, piecesFrom]
      simp only [hlead, piecesFrom_length]
      rw [List.map_cons, ← ih]
      rfl

@[simp] theorem runes_encode (cs : List Char) : runes (encode cs) = cs := by
  rw [runes, pieces_encode, List.map_map]
  exact List.map_id cs

theorem encode_inj {cs ds : List Char} : encode cs = encode ds ↔ cs = ds := by
  constructor
  · intro h
    have hrunes := congrArg runes h
    rwa [runes_encode, runes_encode] at hrunes
  · exact congrArg encode

@[simp] theorem isValid_encode (cs : List Char) : isValid (encode cs) = true := by
  rw [isValid_eq, pieces_encode, List.all_map]
  exact List.all_eq_true.mpr fun _ _ => rfl

/-- The text of a string holds its characters. -/
theorem ofString_eq_encode (s : String) : Bytes.ofString s = encode s.toList := by
  rw [Bytes.ofString, ← String.utf8Encode_toList]
  exact List.toList_data_toByteArray

/-! ## Writing what was read -/

theorem tail?_eq_some {b : UInt8} {low : Nat} (h : tail? b = some low) :
    low < 64 ∧ b = UInt8.ofNat (low + 128) := by
  unfold tail? at h
  split_ifs at h with hb
  have hlow : b.toNat - 0x80 = low := Option.some.inj h
  have h80 : 0x80 ≤ b.toNat := UInt8.le_iff_toNat_le.mp hb.1
  have hC0 : b.toNat < 0xC0 := UInt8.lt_iff_toNat_lt.mp hb.2
  refine ⟨by omega, ?_⟩
  have hsum : low + 128 = b.toNat := by omega
  rw [hsum, UInt8.ofNat_toNat]

theorem tails?_succ {high n m : Nat} {bs : Bytes} (h : tails? high (n + 1) bs = some m) :
    ∃ low rest, low < 64 ∧ bs = UInt8.ofNat (low + 128) :: rest ∧
      tails? (high * 64 + low) n rest = some m := by
  cases bs with
  | nil => simp [tails?] at h
  | cons b rest =>
      unfold tails? at h
      cases hb : tail? b with
      | none => simp [hb] at h
      | some low =>
          rw [hb] at h
          obtain ⟨hlow, rfl⟩ := tail?_eq_some hb
          exact ⟨low, rest, hlow, rfl, h⟩

theorem scalar?_eq_some {least n : Nat} {c : Char} (h : scalar? least n = some c) :
    least ≤ n ∧ c.toNat = n := by
  unfold scalar? at h
  split_ifs at h with hn
  obtain rfl := Option.some.inj h
  refine ⟨hn.1, ?_⟩
  rw [Char.ofNat, dif_pos hn.2]
  rfl

/-- What leads to a character is its encoding. -/
theorem utf8EncodeChar_of_lead? {b : UInt8} {bs : Bytes} {c : Char} {n : Nat}
    (h : lead? b bs = some (c, n)) :
    ∃ rest, bs = rest ++ bs.drop n ∧ String.utf8EncodeChar c = b :: rest := by
  have hlt : b.toNat < 256 := b.toNat_lt
  rw [← UInt8.ofNat_toNat (x := b), lead?_ofNat hlt] at h
  have hval : c.val.toNat = c.toNat := rfl
  split_ifs at h with h1 h2 h3 h4 h5
  · obtain ⟨rfl, rfl⟩ := Prod.mk.inj (Option.some.inj h)
    refine ⟨[], rfl, ?_⟩
    have hnat : (Char.ofNat b.toNat).toNat = b.toNat := by
      rw [Char.ofNat, dif_pos (.inl (by omega))]
      rfl
    rw [String.utf8EncodeChar, hval, hnat]
    simp only [if_pos (show b.toNat ≤ 127 by omega), UInt8.ofNat_toNat]
  · obtain ⟨m, hm, hc⟩ := Option.bind_eq_some_iff.mp h
    obtain ⟨_, hscalar, heq⟩ := Option.map_eq_some_iff.mp hc
    obtain ⟨rfl, rfl⟩ := Prod.mk.inj heq
    obtain ⟨low, rest, hlow, rfl, hrest⟩ := tails?_succ hm
    obtain ⟨hleast, hnat⟩ := scalar?_eq_some hscalar
    have hsum : (b.toNat - 0xC0) * 64 + low = m := Option.some.inj hrest
    refine ⟨[UInt8.ofNat (low + 128)], rfl, ?_⟩
    have hlead : m / 64 % 32 + 192 = b.toNat := by omega
    have htail : m % 64 = low := by omega
    rw [String.utf8EncodeChar, hval, hnat]
    simp only [if_neg (show ¬ m ≤ 127 by omega), if_pos (show m ≤ 2047 by omega), hlead, htail,
      UInt8.ofNat_toNat]
  · obtain ⟨m, hm, hc⟩ := Option.bind_eq_some_iff.mp h
    obtain ⟨_, hscalar, heq⟩ := Option.map_eq_some_iff.mp hc
    obtain ⟨rfl, rfl⟩ := Prod.mk.inj heq
    obtain ⟨mid, _, hmid, rfl, hm'⟩ := tails?_succ hm
    obtain ⟨low, rest, hlow, rfl, hrest⟩ := tails?_succ hm'
    obtain ⟨hleast, hnat⟩ := scalar?_eq_some hscalar
    have hsum : ((b.toNat - 0xE0) * 64 + mid) * 64 + low = m := Option.some.inj hrest
    refine ⟨[UInt8.ofNat (mid + 128), UInt8.ofNat (low + 128)], rfl, ?_⟩
    have hlead : m / 4096 % 16 + 224 = b.toNat := by omega
    have hmiddle : m / 64 % 64 = mid := by omega
    have htail : m % 64 = low := by omega
    rw [String.utf8EncodeChar, hval, hnat]
    simp only [if_neg (show ¬ m ≤ 127 by omega), if_neg (show ¬ m ≤ 2047 by omega),
      if_pos (show m ≤ 65535 by omega), hlead, hmiddle, htail, UInt8.ofNat_toNat]
  · obtain ⟨m, hm, hc⟩ := Option.bind_eq_some_iff.mp h
    obtain ⟨_, hscalar, heq⟩ := Option.map_eq_some_iff.mp hc
    obtain ⟨rfl, rfl⟩ := Prod.mk.inj heq
    obtain ⟨upper, _, hupper, rfl, hm'⟩ := tails?_succ hm
    obtain ⟨mid, _, hmid, rfl, hm''⟩ := tails?_succ hm'
    obtain ⟨low, rest, hlow, rfl, hrest⟩ := tails?_succ hm''
    obtain ⟨hleast, hnat⟩ := scalar?_eq_some hscalar
    have hsum : (((b.toNat - 0xF0) * 64 + upper) * 64 + mid) * 64 + low = m :=
      Option.some.inj hrest
    refine ⟨[UInt8.ofNat (upper + 128), UInt8.ofNat (mid + 128), UInt8.ofNat (low + 128)], rfl, ?_⟩
    have hlead : m / 262144 % 8 + 240 = b.toNat := by omega
    have hupper' : m / 4096 % 64 = upper := by omega
    have hmiddle : m / 64 % 64 = mid := by omega
    have htail : m % 64 = low := by omega
    rw [String.utf8EncodeChar, hval, hnat]
    simp only [if_neg (show ¬ m ≤ 127 by omega), if_neg (show ¬ m ≤ 2047 by omega),
      if_neg (show ¬ m ≤ 65535 by omega), hlead, hupper', hmiddle, htail, UInt8.ofNat_toNat]

theorem flatMap_bytes_piecesFrom (k : Nat) (bs : Bytes) :
    (piecesFrom k bs).flatMap Piece.bytes = bs.drop k := by
  induction bs generalizing k with
  | nil => simp [piecesFrom]
  | cons b bs ih =>
      cases k with
      | succ k => exact ih k
      | zero =>
          cases hlead : lead? b bs with
          | none =>
              simp only [piecesFrom, hlead, List.flatMap_cons, ih, Piece.bytes]
              rfl
          | some p =>
              obtain ⟨c, n⟩ := p
              obtain ⟨rest, hbs, hc⟩ := utf8EncodeChar_of_lead? hlead
              simp only [piecesFrom, hlead, List.flatMap_cons, ih, Piece.bytes, hc,
                List.cons_append, ← hbs, List.drop_zero]

theorem flatMap_bytes_pieces (bs : Bytes) : (pieces bs).flatMap Piece.bytes = bs :=
  flatMap_bytes_piecesFrom 0 bs

/-- A text with no stray byte is what its characters are written as. -/
theorem encode_runes {bs : Bytes} (h : isValid bs = true) : encode (runes bs) = bs := by
  rw [isValid_eq, List.all_eq_true] at h
  have hbytes : ∀ p ∈ pieces bs, String.utf8EncodeChar p.rune = p.bytes := by
    intro p hp
    cases p with
    | char c => rfl
    | stray b => cases h _ hp
  rw [runes, encode, List.flatMap_map, List.flatMap_congr hbytes, flatMap_bytes_pieces]

/-! ## ASCII -/

theorem pieces_cons_of_lt {b : UInt8} (h : b < 0x80) (bs : Bytes) :
    pieces (b :: bs) = .char (Char.ofNat b.toNat) :: pieces bs := by
  rw [pieces, piecesFrom]
  simp only [lead?, if_pos h]
  rfl

/-- Bytes below 128 are the characters with their numbers. -/
theorem pieces_ascii {bs : Bytes} (h : ∀ b ∈ bs, b < 0x80) :
    pieces bs = bs.map fun b => .char (Char.ofNat b.toNat) := by
  induction bs with
  | nil => rfl
  | cons b bs ih =>
      rw [pieces_cons_of_lt (h b (by simp)), ih fun d hd => h d (by simp [hd])]
      rfl

theorem runes_ascii {bs : Bytes} (h : ∀ b ∈ bs, b < 0x80) :
    runes bs = bs.map fun b => Char.ofNat b.toNat := by
  rw [runes, pieces_ascii h, List.map_map]
  rfl

theorem isValid_ascii {bs : Bytes} (h : ∀ b ∈ bs, b < 0x80) : isValid bs = true := by
  rw [isValid_eq, pieces_ascii h, List.all_map]
  exact List.all_eq_true.mpr fun _ _ => rfl

/-- An ASCII byte of a text is one of its characters. -/
theorem mem_of_mem_encode {cs : List Char} {b : UInt8} (hb : b < 0x80) (h : b ∈ encode cs) :
    Char.ofNat b.toNat ∈ cs := by
  obtain ⟨c, hc, hbc⟩ := List.mem_flatMap.mp h
  have hlt : b.toNat < 0x80 := UInt8.lt_iff_toNat_lt.mp hb
  -- The bytes of a longer character are all above ASCII.
  have hlong : ∀ n < 256, 0x80 ≤ n → b ≠ UInt8.ofNat n := by
    rintro n hn hle rfl
    rw [toNat_ofNat hn] at hlt
    omega
  have hval : c.val.toNat = c.toNat := rfl
  unfold String.utf8EncodeChar at hbc
  simp only [hval] at hbc
  split_ifs at hbc with h1 h2 h3
  · have hnat : b.toNat = c.toNat := by
      rw [List.mem_singleton.mp hbc, toNat_ofNat (by omega)]
    rwa [hnat, Char.ofNat_toNat]
  all_goals
    simp only [List.mem_cons, List.not_mem_nil, or_false] at hbc
  · rcases hbc with hbc | hbc <;> exact absurd hbc (hlong _ (by omega) (by omega))
  · rcases hbc with hbc | hbc | hbc <;> exact absurd hbc (hlong _ (by omega) (by omega))
  · rcases hbc with hbc | hbc | hbc | hbc <;> exact absurd hbc (hlong _ (by omega) (by omega))

/-- An ASCII byte is part of no other character. -/
theorem not_mem_utf8EncodeChar {b : UInt8} (hb : b < 0x80) {c : Char} (h : c ≠ Char.ofNat b.toNat) :
    b ∉ String.utf8EncodeChar c := by
  intro hmem
  have hencode : b ∈ encode [c] := by simpa using hmem
  exact h (List.mem_singleton.mp (mem_of_mem_encode hb hencode)).symm

end RpcBindings.Utf8
