import Mathlib.Algebra.Group.Nat.Defs
import RpcBindings.Proofs.Text.Utf8
import RpcBindings.Text.Numeral

/-!
# Numerals can be read back

A decimal numeral determines its number, and so does a hexadecimal one that is filled with zeros to
a fixed width, whatever is written behind it.
-/

set_option autoImplicit false

namespace RpcBindings

theorem exists_digit_of_mem_toDigits {base n : Nat} (hbase : 1 < base) {c : Char}
    (h : c ∈ Nat.toDigits base n) : ∃ d < base, c = Nat.digitChar d := by
  induction n using Nat.strongRecOn with
  | _ n ih =>
      by_cases hn : n < base
      · rw [Nat.toDigits_of_lt_base hn, List.mem_singleton] at h
        exact ⟨n, hn, h⟩
      · rw [Nat.toDigits_of_base_le hbase (by omega), List.mem_append, List.mem_singleton] at h
        obtain h | h := h
        · exact ih (n / base) (Nat.div_lt_self (by omega) hbase) h
        · exact ⟨n % base, Nat.mod_lt _ (by omega), h⟩

/-! ## Decimal numerals -/

theorem decimal_injective {m n : Nat} (h : decimal m = decimal n) : m = n := by
  have hdigits := congrArg Utf8.runes h
  rw [decimal, decimal, Utf8.runes_encode, Utf8.runes_encode] at hdigits
  have hvalue := congrArg (fun digits => Nat.ofDigitChars 10 digits 0) hdigits
  simpa only [Nat.ofDigitChars_ten_toDigits] using hvalue

/-! ## Hexadecimal numerals -/

/-- The value of a hexadecimal digit. -/
def hexDigitValue (c : Char) : Nat := if c.toNat < 58 then c.toNat - 48 else c.toNat - 87

/-- The number that hexadecimal digits stand for when `high` was read before them. -/
def hexValueFrom (high : Nat) (cs : List Char) : Nat :=
  cs.foldl (fun n c => 16 * n + hexDigitValue c) high

theorem hexValueFrom_append (high : Nat) (cs ds : List Char) :
    hexValueFrom high (cs ++ ds) = hexValueFrom (hexValueFrom high cs) ds :=
  List.foldl_append

theorem hexDigitValue_digitChar : ∀ d < 16, hexDigitValue (Nat.digitChar d) = d := by decide

theorem hexValueFrom_toDigits (n : Nat) : hexValueFrom 0 (Nat.toDigits 16 n) = n := by
  induction n using Nat.strongRecOn with
  | _ n ih =>
      by_cases hn : n < 16
      · rw [Nat.toDigits_of_lt_base hn]
        simp [hexValueFrom, hexDigitValue_digitChar n hn]
      · rw [Nat.toDigits_of_base_le (by decide) (by omega), hexValueFrom_append,
          ih (n / 16) (by omega)]
        simp only [hexValueFrom, List.foldl_cons, List.foldl_nil,
          hexDigitValue_digitChar (n % 16) (Nat.mod_lt _ (by decide))]
        omega

theorem hexValueFrom_replicate (k : Nat) : hexValueFrom 0 (List.replicate k '0') = 0 := by
  induction k with
  | zero => rfl
  | succ k ih => exact ih

theorem length_encode_of_digits {cs : List Char} (h : ∀ c ∈ cs, ∃ d < 16, c = Nat.digitChar d) :
    (Utf8.encode cs).length = cs.length := by
  have hone : ∀ d < 16, (String.utf8EncodeChar (Nat.digitChar d)).length = 1 := by decide
  induction cs with
  | nil => rfl
  | cons c cs ih =>
      obtain ⟨d, hd, hc⟩ := h c (by simp)
      rw [Utf8.encode_cons, List.length_append, ih fun e he => h e (by simp [he]), hc, hone d hd,
        List.length_cons, Nat.add_comm]

theorem length_hex (n : Nat) : (hex n).length = (Nat.toDigits 16 n).length :=
  length_encode_of_digits fun _ hc => exists_digit_of_mem_toDigits (by decide) hc

theorem encode_replicate_zero (k : Nat) :
    Utf8.encode (List.replicate k '0') = List.replicate k 0x30 := by
  induction k with
  | zero => rfl
  | succ k ih =>
      rw [List.replicate_succ, List.replicate_succ, Utf8.encode_cons, ih]
      rfl

theorem space_notMem_hexFilled (width n : Nat) : 0x20 ∉ hexFilled width n := by
  intro h
  rw [hexFilled, List.mem_append] at h
  obtain h | h := h
  · exact absurd (List.eq_of_mem_replicate h) (by decide)
  · have hdigits : ∀ d < 16, ' ' ≠ Nat.digitChar d := by decide
    obtain ⟨d, hd, hc⟩ := exists_digit_of_mem_toDigits (by decide) (Utf8.mem_of_mem_encode (by decide) h)
    exact hdigits d hd hc

section

variable {width : Nat} (hwidth : 0 < width)
include hwidth

theorem length_hexFilled {n : Nat} (hn : n < 16 ^ width) : (hexFilled width n).length = width := by
  have hle : (hex n).length ≤ width := by
    rw [length_hex]
    exact (Nat.length_toDigits_le_iff (by decide) hwidth).mpr hn
  rw [hexFilled, List.length_append, List.length_replicate]
  omega

/-- A numeral of fixed width can be told from what is written behind it. -/
theorem hexFilled_append_inj {m n : Nat} (hm : m < 16 ^ width) (hn : n < 16 ^ width)
    {bs cs : Bytes} (h : hexFilled width m ++ bs = hexFilled width n ++ cs) : m = n ∧ bs = cs := by
  have hlength : (hexFilled width m).length = (hexFilled width n).length := by
    rw [length_hexFilled hwidth hm, length_hexFilled hwidth hn]
  obtain ⟨hnumeral, hrest⟩ := List.append_inj h hlength
  refine ⟨?_, hrest⟩
  have hvalue : ∀ k, hexValueFrom 0 (Utf8.runes (hexFilled width k)) = k := by
    intro k
    rw [hexFilled, ← encode_replicate_zero, hex, ← Utf8.encode_append, Utf8.runes_encode,
      hexValueFrom_append, hexValueFrom_replicate, hexValueFrom_toDigits]
  rw [← hvalue m, hnumeral, hvalue n]

end

end RpcBindings
