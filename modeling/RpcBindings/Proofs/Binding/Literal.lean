import Mathlib.Algebra.Group.Nat.Defs
import RpcBindings.Binding.Literal
import RpcBindings.Proofs.Code.Lexical
import RpcBindings.Proofs.Text.Numeral

/-!
# String literals hold what they are made from (SPEC §4.3)

The literal of a text is one literal for a reader of Rust, whatever the text is and whatever stands
behind it, and by the rules for escapes its body stands for the characters of the text.  The body
shows all it holds, so a literal never spreads over lines.
-/

set_option autoImplicit false

namespace RpcBindings.Binding

open RpcBindings.Code.Lexical

/-! ## Characters -/

/-- How a character is spelled inside a literal: as it is, by a letter behind a backslash, or by its
number. -/
inductive Spelled (c : Char) : List Char → Prop where
  | plain : c ≠ '"' → c ≠ '\\' → c ≠ '\r' → Spelled c [c]
  | letter {e : Char} : Pending.step .slash e = some ([c], .text) → Spelled c ['\\', e]
  | number : Spelled c ('\\' :: 'u' :: '{' :: (Nat.toDigits 16 c.toNat ++ ['}']))

theorem literalChar_spelled (c : Char) : ∃ cs, literalChar c = Utf8.encode cs ∧ Spelled c cs := by
  unfold literalChar
  split_ifs with hquote hslash hfeed hreturn htab hzero hprint
  · exact ⟨['\\', '"'], by decide, .letter (by rw [hquote]; decide)⟩
  · exact ⟨['\\', '\\'], by decide, .letter (by rw [hslash]; decide)⟩
  · exact ⟨['\\', 'n'], by decide, .letter (by rw [hfeed]; decide)⟩
  · exact ⟨['\\', 'r'], by decide, .letter (by rw [hreturn]; decide)⟩
  · exact ⟨['\\', 't'], by decide, .letter (by rw [htab]; decide)⟩
  · have hc : c = Char.ofNat 0 := by rw [← hzero, Char.ofNat_toNat]
    exact ⟨['\\', '0'], by decide, .letter (by rw [hc]; decide)⟩
  · exact ⟨[c], rfl, .plain hquote hslash hreturn⟩
  · refine ⟨_, ?_, .number⟩
    rw [Utf8.ofString_eq_encode, Utf8.ofString_eq_encode, hex, ← Utf8.encode_append,
      ← Utf8.encode_append]
    rfl

theorem digitChar_ne {d : Nat} (h : d < 16) :
    Nat.digitChar d ≠ '"' ∧ Nat.digitChar d ≠ '\\' ∧ Nat.digitChar d ≠ '}' ∧
      Nat.digitChar d ≠ '_' ∧ hexValue? (Nat.digitChar d) = some d := by
  revert d
  decide

theorem Spelled.enclosed {c : Char} {cs : List Char} (h : Spelled c cs) : Enclosed cs := by
  cases h with
  | plain hquote hslash _ => exact enclosed_singleton hquote hslash
  | letter _ => exact enclosed_escape _
  | number =>
      refine (enclosed_escape 'u').append (enclosed_of_forall ?_)
      intro d hd
      simp only [List.mem_cons, List.mem_append, List.not_mem_nil, or_false] at hd
      obtain rfl | hd | rfl := hd
      · decide
      · obtain ⟨n, hn, rfl⟩ := exists_digit_of_mem_toDigits (by decide) hd
        exact ⟨(digitChar_ne hn).1, (digitChar_ne hn).2.1⟩
      · decide

theorem unescapeFrom_skips {p q : Pending} {c : Char} (h : p.step c = some ([], q))
    (rest : List Char) : unescapeFrom p (c :: rest) = unescapeFrom q rest := by
  rw [unescapeFrom, h]
  simp

theorem unescapeFrom_writes {p q : Pending} {c d : Char} (h : p.step c = some ([d], q))
    (rest : List Char) : unescapeFrom p (c :: rest) = (unescapeFrom q rest).map (d :: ·) := by
  rw [unescapeFrom, h]
  rfl

theorem unescapeFrom_digit {d n k : Nat} (hd : d < 16) (hk : k < 6) (rest : List Char) :
    unescapeFrom (.code n k) (Nat.digitChar d :: rest) =
      unescapeFrom (.code (n * 16 + d) (k + 1)) rest := by
  obtain ⟨_, _, hbrace, hline, hvalue⟩ := digitChar_ne hd
  refine unescapeFrom_skips ?_ rest
  simp [Pending.step, hbrace, hline, hvalue, hk]

/-- Reading the digits of a number gives the number. -/
theorem unescapeFrom_toDigits {j n : Nat} (hn : n < 16 ^ (j + 1)) (hj : j < 6) :
    ∃ k, 0 < k ∧ k ≤ j + 1 ∧ ∀ rest,
      unescapeFrom (.code 0 0) (Nat.toDigits 16 n ++ rest) = unescapeFrom (.code n k) rest := by
  induction j generalizing n with
  | zero =>
      refine ⟨1, by decide, by decide, ?_⟩
      intro rest
      have hn' : n < 16 := by simpa using hn
      rw [Nat.toDigits_of_lt_base hn', List.singleton_append, unescapeFrom_digit hn' (by decide),
        Nat.zero_mul, Nat.zero_add]
  | succ j ih =>
      by_cases hsmall : n < 16 ^ (j + 1)
      · obtain ⟨k, hpos, hle, hk⟩ := ih hsmall (by omega)
        exact ⟨k, hpos, by omega, hk⟩
      · have hbase : 16 ≤ n := by
          have : 16 ≤ 16 ^ (j + 1) := Nat.le_self_pow (by omega) 16
          omega
        have hdiv : n / 16 < 16 ^ (j + 1) := by
          rw [Nat.div_lt_iff_lt_mul (by decide), ← Nat.pow_succ]
          exact hn
        obtain ⟨k, hpos, hle, hk⟩ := ih hdiv (by omega)
        refine ⟨k + 1, by omega, by omega, ?_⟩
        intro rest
        rw [Nat.toDigits_of_base_le (by decide) hbase, List.append_assoc, hk,
          List.singleton_append, unescapeFrom_digit (Nat.mod_lt _ (by decide)) (by omega),
          Nat.div_add_mod']

theorem Spelled.unescape_append {c : Char} {cs : List Char} (h : Spelled c cs) (rest : List Char) :
    unescape (cs ++ rest) = (unescape rest).map (c :: ·) := by
  have hslash : Pending.step .text '\\' = some ([], .slash) := by decide
  cases h with
  | plain hquote hslash hreturn =>
      refine unescapeFrom_writes ?_ rest
      simp [Pending.step, textStep, hquote, hslash, hreturn]
  | letter hstep =>
      rw [unescape, List.cons_append, unescapeFrom_skips hslash]
      exact unescapeFrom_writes hstep rest
  | number =>
      have hlt : c.toNat < 16 ^ (5 + 1) := by
        obtain h | h := c.valid
        · exact Nat.lt_trans h (by decide)
        · exact Nat.lt_trans h.2 (by decide)
      obtain ⟨k, hpos, _, hdigits⟩ := unescapeFrom_toDigits hlt (by decide)
      have hu : Pending.step .slash 'u' = some ([], .brace) := by decide
      have hopen : Pending.step .brace '{' = some ([], .code 0 0) := by decide
      have hclose : Pending.step (.code c.toNat k) '}' = some ([c], .text) := by
        simp only [Pending.step, if_true, Char.ofNat_toNat]
        rw [if_pos ⟨hpos, c.valid⟩]
      simp only [unescape, List.cons_append, List.append_assoc, List.nil_append]
      rw [unescapeFrom_skips hslash, unescapeFrom_skips hu, unescapeFrom_skips hopen, hdigits,
        unescapeFrom_writes hclose]

/-! ## Texts -/

/-- The body of the literal of a text. -/
def literalBody (bs : Bytes) : List Char :=
  (Utf8.runes bs).flatMap fun c => Utf8.runes (literalChar c)

theorem spelled_runes_literalChar (c : Char) : Spelled c (Utf8.runes (literalChar c)) := by
  obtain ⟨cs, hcs, hspelled⟩ := literalChar_spelled c
  rwa [hcs, Utf8.runes_encode]

theorem isValid_literalChar (c : Char) : Utf8.isValid (literalChar c) = true := by
  obtain ⟨cs, hcs, _⟩ := literalChar_spelled c
  rw [hcs, Utf8.isValid_encode]

theorem flatMap_literalChar (cs : List Char) :
    Utf8.isValid (cs.flatMap literalChar) = true ∧
      Utf8.runes (cs.flatMap literalChar) = cs.flatMap fun c => Utf8.runes (literalChar c) := by
  induction cs with
  | nil => exact ⟨rfl, rfl⟩
  | cons c cs ih =>
      have hc := isValid_literalChar c
      rw [List.flatMap_cons, Utf8.runes_append hc, ih.2]
      exact ⟨Utf8.isValid_append hc ih.1, rfl⟩

theorem runes_literal (bs : Bytes) : Utf8.runes (literal bs) = '"' :: literalBody bs ++ ['"'] := by
  obtain ⟨hvalid, hrunes⟩ := flatMap_literalChar (Utf8.runes bs)
  have hquote : Utf8.isValid (Bytes.ofString "\"") = true := by decide
  rw [literal, Utf8.runes_append (Utf8.isValid_append hquote hvalid), Utf8.runes_append hquote,
    hrunes]
  rfl

/-- The literal of a text is scanned as one literal. -/
theorem literal_lexes (bs : Bytes) (due : List Char) :
    Lexes (literal bs) due due [literalBody bs] := by
  have hbody : Enclosed (literalBody bs) := by
    unfold literalBody
    induction Utf8.runes bs with
    | nil => exact enclosed_nil
    | cons c cs ih => exact (spelled_runes_literalChar c).enclosed.append ih
  have hvalid : Utf8.isValid (literal bs) = true := by
    have hquote : Utf8.isValid (Bytes.ofString "\"") = true := by decide
    have hchars := (flatMap_literalChar (Utf8.runes bs)).1
    exact Utf8.isValid_append (Utf8.isValid_append hquote hchars) hquote
  refine ⟨hvalid, ?_⟩
  rw [runes_literal]
  exact leads_literal hbody due

/-- The body of the literal of a text stands for the characters of the text. -/
theorem unescape_literalBody (bs : Bytes) : unescape (literalBody bs) = some (Utf8.runes bs) := by
  unfold literalBody
  induction Utf8.runes bs with
  | nil => rfl
  | cons c cs ih =>
      rw [List.flatMap_cons, (spelled_runes_literalChar c).unescape_append, ih]
      rfl

/-! ## What a literal shows -/

/-- A character is spelled with characters that leave a mark: where it leaves none itself, it is
escaped. -/
theorem isPrintable_literalChar (c : Char) :
    ∀ d ∈ Utf8.runes (literalChar c), Text.isPrintable d = true := by
  unfold literalChar
  split_ifs with hquote hslash hfeed hreturn htab hzero hprint
  · exact List.all_eq_true.mp (by decide)
  · exact List.all_eq_true.mp (by decide)
  · exact List.all_eq_true.mp (by decide)
  · exact List.all_eq_true.mp (by decide)
  · exact List.all_eq_true.mp (by decide)
  · exact List.all_eq_true.mp (by decide)
  · rw [Utf8.runes_encode]
    exact List.forall_mem_singleton.mpr hprint
  · have hdigit : ∀ n < 16, Text.isPrintable (Nat.digitChar n) = true := by decide
    rw [Utf8.ofString_eq_encode, Utf8.ofString_eq_encode, hex, ← Utf8.encode_append,
      ← Utf8.encode_append, Utf8.runes_encode]
    have hopen := List.all_eq_true.mp (by decide : "\\u\x7b".toList.all Text.isPrintable = true)
    have hclose := List.all_eq_true.mp (by decide : "\x7d".toList.all Text.isPrintable = true)
    refine List.forall_mem_append.mpr ⟨List.forall_mem_append.mpr ⟨hopen, ?_⟩, hclose⟩
    intro d hd
    obtain ⟨n, hn, rfl⟩ := exists_digit_of_mem_toDigits (by decide) hd
    exact hdigit n hn

theorem isPrintable_of_mem_literalBody {bs : Bytes} {c : Char} (h : c ∈ literalBody bs) :
    Text.isPrintable c = true := by
  obtain ⟨d, -, hc⟩ := List.mem_flatMap.mp h
  exact isPrintable_literalChar d c hc

/-! ## Reading a literal back -/

/-- Behind the literal of a text a scan goes on as if nothing but the one literal had been read. -/
theorem run_literal_append (s rest : Bytes) (due : List Char) (met : List (List Char)) :
    Scan.run ⟨.code, due, met⟩ (Utf8.runes (literal s ++ rest)) =
      Scan.run ⟨.code, due, met ++ [literalBody s]⟩ (Utf8.runes rest) := by
  have hlexes := literal_lexes s due
  have hleads := hlexes.leads [] met
  rw [List.append_nil] at hleads
  rw [Utf8.runes_append hlexes.valid, Scan.run_append, hleads, Option.bind_some]

/-- Texts with one literal are read as the same characters. -/
theorem runes_eq_of_literal_eq {s t : Bytes} (h : literal s = literal t) :
    Utf8.runes s = Utf8.runes t := by
  have hrunes := congrArg Utf8.runes h
  rw [runes_literal, runes_literal] at hrunes
  have hbody : literalBody s = literalBody t := List.append_cancel_right (List.cons.inj hrunes).2
  have hread := unescape_literalBody s
  rw [hbody, unescape_literalBody] at hread
  exact (Option.some.inj hread).symm

/-- The literal of a text, whatever stands behind it, is read as one literal that ends with its
last quote.  Every character in it leaves a mark, so it stays on one line, and by the rules for
escapes it stands for the characters of the text, with the replacement character for each stray
byte.  Texts without stray bytes can therefore be told apart by their literals. -/
theorem literal_reads_back :
    (∀ s : Bytes, Utf8.isValid (literal s) = true ∧
      ∃ body, Utf8.runes (literal s) = '"' :: body ++ ['"'] ∧
        (∀ c ∈ body, Text.isPrintable c = true ∧ c ≠ '\n' ∧ c ≠ '\r') ∧
        (∀ (rest : Bytes) (due : List Char) (met : List (List Char)),
          Scan.run ⟨.code, due, met⟩ (Utf8.runes (literal s ++ rest)) =
            Scan.run ⟨.code, due, met ++ [body]⟩ (Utf8.runes rest)) ∧
        unescape body = some (Utf8.runes s)) ∧
    ∀ s t : Bytes, Utf8.isValid s = true → Utf8.isValid t = true → literal s = literal t →
      s = t := by
  constructor
  · intro s
    refine ⟨(literal_lexes s []).valid, literalBody s, runes_literal s, ?_, run_literal_append s,
      unescape_literalBody s⟩
    intro c hc
    have hprint := isPrintable_of_mem_literalBody hc
    refine ⟨hprint, ?_, ?_⟩
    · rintro rfl
      exact absurd hprint (by decide)
    · rintro rfl
      exact absurd hprint (by decide)
  · intro s t hs ht h
    rw [← Utf8.encode_runes hs, runes_eq_of_literal_eq h, Utf8.encode_runes ht]

/-- A quote, a control character before a letter that is a digit of hexadecimal numbers, and a stray
byte; and a text that spells the escape of another one. -/
theorem literal_reads_back_control :
    (∃ body, Utf8.runes (literal [0x22, 0x07, 0x61, 0xFF]) = '"' :: body ++ ['"'] ∧
      Scan.run .start (Utf8.runes (literal [0x22, 0x07, 0x61, 0xFF] ++ "a\"")) =
        Scan.run ⟨.code, [], [body]⟩ ['a', '"'] ∧
      unescape body = some ['"', Char.ofNat 0x07, 'a', Utf8.replacement]) ∧
    literal [0x07, 0x61] ≠ literal "\\u\x7b7\x7da" := by
  obtain ⟨hreads, hinjective⟩ := literal_reads_back
  obtain ⟨_, body, hbody, _, hscan, hunescape⟩ := hreads [0x22, 0x07, 0x61, 0xFF]
  refine ⟨⟨body, hbody, hscan "a\"" [] [], hunescape⟩, ?_⟩
  intro h
  exact absurd (hinjective _ _ (by decide) (by decide) h) (by decide)

end RpcBindings.Binding
