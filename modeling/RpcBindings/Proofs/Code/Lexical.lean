import Mathlib.Data.List.Basic
import RpcBindings.Proofs.Text.Utf8

/-!
# The lexical structure of code

What a reader of Rust sees of a text before any parsing: where string literals start and end, and how
brackets outside of them nest.  A quote opens a literal; inside it a backslash takes the next
character along, and a quote that none takes along closes it.  What a literal stands for follows from
its body by the rules for escapes.

`Lexes` is the compositional form of a scan: text that is put together from parts is scanned part by
part, as long as each part starts and ends outside of literals.
-/

set_option autoImplicit false

namespace RpcBindings.Code.Lexical

/-! ## Scanning -/

/-- Where a scan stands: in code, in a literal of which `body` was read, or right behind a backslash
in one. -/
inductive Mode where
  | code
  | literal (body : List Char)
  | escape (body : List Char)
  deriving DecidableEq, Repr

/-- What a scan knows: where it stands, the closing brackets that are due, innermost first, and the
bodies of the literals it has met. -/
structure Scan where
  mode : Mode
  due : List Char
  literals : List (List Char)
  deriving DecidableEq, Repr

/-- Nothing was read. -/
def Scan.start : Scan := ⟨.code, [], []⟩

/-- The bracket that closes what the character opens, if it opens anything. -/
def closing? (c : Char) : Option Char :=
  if c = '(' then some ')'
  else if c = '[' then some ']'
  else if c = '{' then some '}'
  else none

/-- The character is a closing bracket. -/
def isClosing (c : Char) : Bool := c == ')' || c == ']' || c == '}'

/-- Reads one character; a closing bracket must be the one that is due. -/
def Scan.step (s : Scan) (c : Char) : Option Scan :=
  match s.mode with
  | .code =>
      if c = '"' then some { s with mode := .literal [] }
      else
        match closing? c with
        | some d => some { s with due := d :: s.due }
        | none =>
            if isClosing c then
              match s.due with
              | d :: due => if c = d then some { s with due } else none
              | [] => none
            else some s
  | .literal body =>
      if c = '"' then some { s with mode := .code, literals := s.literals ++ [body] }
      else if c = '\\' then some { s with mode := .escape (body ++ [c]) }
      else some { s with mode := .literal (body ++ [c]) }
  | .escape body => some { s with mode := .literal (body ++ [c]) }

/-- Reads characters one after another. -/
def Scan.run (s : Scan) : List Char → Option Scan
  | [] => some s
  | c :: cs =>
      match s.step c with
      | some t => t.run cs
      | none => none

/-- Scanned from its start, the text ends outside of literals with all brackets closed, and the
bodies of its literals are these. -/
def HasLiterals (text : Bytes) (literals : List (List Char)) : Prop :=
  Scan.start.run (Utf8.runes text) = some ⟨.code, [], literals⟩

theorem Scan.run_append (s : Scan) (cs ds : List Char) :
    s.run (cs ++ ds) = (s.run cs).bind fun t => t.run ds := by
  induction cs generalizing s with
  | nil => rfl
  | cons c cs ih =>
      simp only [List.cons_append, run]
      cases s.step c with
      | none => rfl
      | some t => exact ih t

/-! ## Escapes -/

/-- Where the reading of a literal's body stands: in plain text, behind a backslash, behind `\x` with
the first digit or none, behind `\u`, in the braces behind that with a number and how many digits it
has, or in the blanks behind an escaped end of line. -/
inductive Pending where
  | text
  | slash
  | byte (high : Option Nat)
  | brace
  | code (n digits : Nat)
  | blanks
  deriving DecidableEq, Repr

/-- The value of a hexadecimal digit. -/
def hexValue? (c : Char) : Option Nat :=
  if '0' ≤ c ∧ c ≤ '9' then some (c.toNat - 0x30)
  else if 'a' ≤ c ∧ c ≤ 'f' then some (c.toNat - 0x57)
  else if 'A' ≤ c ∧ c ≤ 'F' then some (c.toNat - 0x37)
  else none

/-- The character that a backslash and a character stand for. -/
def simpleEscape? (c : Char) : Option Char :=
  if c = 'n' then some '\n'
  else if c = 'r' then some '\r'
  else if c = 't' then some '\t'
  else if c = '\\' then some '\\'
  else if c = '0' then some (Char.ofNat 0)
  else if c = '\'' then some '\''
  else if c = '"' then some '"'
  else none

/-- A character in plain text.  What ends a literal does not stand for itself, nor does a carriage
return. -/
def textStep (c : Char) : Option (List Char × Pending) :=
  if c = '\\' then some ([], .slash)
  else if c = '"' ∨ c = '\r' then none
  else some ([c], .text)

/-- What one character of a body adds to what the body stands for, and where the reading stands
then. -/
def Pending.step : Pending → Char → Option (List Char × Pending)
  | .text, c => textStep c
  | .slash, c =>
      if c = 'x' then some ([], .byte none)
      else if c = 'u' then some ([], .brace)
      else if c = '\n' then some ([], .blanks)
      else (simpleEscape? c).map fun d => ([d], .text)
  | .byte none, c => (hexValue? c).bind fun d => if d < 8 then some ([], .byte (some d)) else none
  | .byte (some high), c => (hexValue? c).map fun d => ([Char.ofNat (high * 16 + d)], .text)
  | .brace, c => if c = '{' then some ([], .code 0 0) else none
  | .code n digits, c =>
      if c = '}' then
        if 0 < digits ∧ n.isValidChar then some ([Char.ofNat n], .text) else none
      else if c = '_' then if 0 < digits then some ([], .code n digits) else none
      else
        (hexValue? c).bind fun d =>
          if digits < 6 then some ([], .code (n * 16 + d) (digits + 1)) else none
  | .blanks, c =>
      if c = ' ' ∨ c = '\n' ∨ c = '\t' ∨ c = '\r' then some ([], .blanks) else textStep c

/-- What the rest of a body stands for. -/
def unescapeFrom (p : Pending) : List Char → Option (List Char)
  | [] => if p = .text ∨ p = .blanks then some [] else none
  | c :: cs =>
      match p.step c with
      | some (out, q) => (unescapeFrom q cs).map (out ++ ·)
      | none => none

/-- The characters that the body of a string literal stands for. -/
def unescape (body : List Char) : Option (List Char) := unescapeFrom .text body

/-! ## Scanning part by part -/

/-- Reading the characters leads from one list of brackets that are due to another, meets the
literals with these bodies, and starts and ends in code.  Brackets due further out do not matter. -/
def Leads (cs before after : List Char) (literals : List (List Char)) : Prop :=
  ∀ due met, Scan.run ⟨.code, before ++ due, met⟩ cs = some ⟨.code, after ++ due, met ++ literals⟩

theorem leads_nil (due : List Char) : Leads [] due due [] := by
  intro outer met
  rw [List.append_nil]
  rfl

theorem Leads.append {cs ds a b c : List Char} {ls ms : List (List Char)} (hcs : Leads cs a b ls)
    (hds : Leads ds b c ms) : Leads (cs ++ ds) a c (ls ++ ms) := by
  intro due met
  rw [Scan.run_append, hcs, Option.bind_some, hds, List.append_assoc]

theorem Leads.frame {cs a b : List Char} {ls : List (List Char)} (h : Leads cs a b ls)
    (outer : List Char) : Leads cs (a ++ outer) (b ++ outer) ls := by
  intro due met
  rw [List.append_assoc, List.append_assoc]
  exact h (outer ++ due) met

/-- The characters that delimit literals, and the brackets. -/
def marks : List Char := ['"', '(', ')', '[', ']', '{', '}']

/-- The character neither delimits a literal nor is a bracket. -/
def isPlain (c : Char) : Bool := decide (c ∉ marks)

theorem isPlain_iff {c : Char} : isPlain c = true ↔ c ∉ marks := decide_eq_true_iff

theorem step_plain {c : Char} (h : isPlain c = true) (due : List Char)
    (met : List (List Char)) : Scan.step ⟨.code, due, met⟩ c = some ⟨.code, due, met⟩ := by
  simp only [isPlain_iff, marks, List.mem_cons, List.not_mem_nil, or_false, not_or] at h
  simp [Scan.step, closing?, isClosing, h]

theorem leads_plain {cs : List Char} (h : ∀ c ∈ cs, isPlain c = true) (due : List Char) :
    Leads cs due due [] := by
  induction cs with
  | nil => exact leads_nil due
  | cons c cs ih =>
      intro outer met
      rw [Scan.run, step_plain (h c (by simp))]
      exact ih (fun d hd => h d (by simp [hd])) outer met

/-- Reading plain characters first changes nothing. -/
theorem Leads.of_plain_cons {c : Char} {cs a b : List Char} {ls : List (List Char)}
    (hc : isPlain c = true) (h : Leads (c :: cs) a b ls) : Leads cs a b ls := by
  intro due met
  have hrun := h due met
  rwa [Scan.run, step_plain hc] at hrun

/-! ## Literals -/

/-- Inside a literal the characters are read up to their end without leaving it. -/
def Enclosed (cs : List Char) : Prop :=
  ∀ body due met, Scan.run ⟨.literal body, due, met⟩ cs = some ⟨.literal (body ++ cs), due, met⟩

theorem enclosed_nil : Enclosed [] := by
  intro body due met
  rw [List.append_nil]
  rfl

theorem Enclosed.append {cs ds : List Char} (hcs : Enclosed cs) (hds : Enclosed ds) :
    Enclosed (cs ++ ds) := by
  intro body due met
  rw [Scan.run_append, hcs, Option.bind_some, hds, List.append_assoc]

theorem enclosed_singleton {c : Char} (hquote : c ≠ '"') (hslash : c ≠ '\\') : Enclosed [c] := by
  intro body due met
  simp [Scan.run, Scan.step, hquote, hslash]

theorem enclosed_of_forall {cs : List Char} (h : ∀ c ∈ cs, c ≠ '"' ∧ c ≠ '\\') : Enclosed cs := by
  induction cs with
  | nil => exact enclosed_nil
  | cons c cs ih =>
      have hc := h c (by simp)
      exact (enclosed_singleton hc.1 hc.2).append (ih fun d hd => h d (by simp [hd]))

/-- A backslash takes along whatever follows it. -/
theorem enclosed_escape (c : Char) : Enclosed ['\\', c] := by
  intro body due met
  simp [Scan.run, Scan.step]

theorem leads_literal {body : List Char} (h : Enclosed body) (due : List Char) :
    Leads ('"' :: body ++ ['"']) due due [body] := by
  intro outer met
  have hopen : Scan.step ⟨.code, due ++ outer, met⟩ '"' =
      some ⟨.literal [], due ++ outer, met⟩ := by
    simp [Scan.step]
  rw [List.cons_append, Scan.run, hopen]
  simp only
  rw [Scan.run_append, h, Option.bind_some, List.nil_append]
  simp [Scan.run, Scan.step]

/-! ## Texts -/

/-- The text is well-formed and reading it leads from one list of due brackets to another. -/
structure Lexes (text : Bytes) (before after : List Char) (literals : List (List Char)) : Prop where
  valid : Utf8.isValid text = true
  leads : Leads (Utf8.runes text) before after literals

theorem lexes_nil (due : List Char) : Lexes [] due due [] := ⟨rfl, leads_nil due⟩

theorem Lexes.append {x y : Bytes} {a b c : List Char} {ls ms : List (List Char)}
    (hx : Lexes x a b ls) (hy : Lexes y b c ms) : Lexes (x ++ y) a c (ls ++ ms) := by
  refine ⟨Utf8.isValid_append hx.valid hy.valid, ?_⟩
  rw [Utf8.runes_append hx.valid]
  exact hx.leads.append hy.leads

theorem Lexes.frame {x : Bytes} {a b : List Char} {ls : List (List Char)} (h : Lexes x a b ls)
    (outer : List Char) : Lexes x (a ++ outer) (b ++ outer) ls :=
  ⟨h.valid, h.leads.frame outer⟩

/-- A text without literals whose brackets, from some that are due on, come out as others. -/
theorem lexes_of_run {text : Bytes} {before after : List Char} (hvalid : Utf8.isValid text = true)
    (h : ∀ due met, Scan.run ⟨.code, before ++ due, met⟩ (Utf8.runes text) =
      some ⟨.code, after ++ due, met⟩) : Lexes text before after [] := by
  refine ⟨hvalid, ?_⟩
  intro due met
  rw [List.append_nil]
  exact h due met

theorem Lexes.hasLiterals {text : Bytes} {literals : List (List Char)}
    (h : Lexes text [] [] literals) : HasLiterals text literals :=
  h.leads [] []

/-- The text is well-formed and neither delimits literals nor holds a bracket. -/
structure PlainText (text : Bytes) : Prop where
  valid : Utf8.isValid text = true
  plain : ∀ c ∈ Utf8.runes text, isPlain c = true

theorem PlainText.lexes {text : Bytes} (h : PlainText text) (due : List Char) :
    Lexes text due due [] :=
  ⟨h.valid, leads_plain h.plain due⟩

theorem PlainText.append {x y : Bytes} (hx : PlainText x) (hy : PlainText y) :
    PlainText (x ++ y) := by
  refine ⟨Utf8.isValid_append hx.valid hy.valid, ?_⟩
  rw [Utf8.runes_append hx.valid]
  exact List.forall_mem_append.mpr ⟨hx.plain, hy.plain⟩

theorem PlainText.append_lexes {x y : Bytes} {a b : List Char} {ls : List (List Char)}
    (hx : PlainText x) (hy : Lexes y a b ls) : Lexes (x ++ y) a b ls :=
  (hx.lexes a).append hy

theorem Lexes.append_plain {x y : Bytes} {a b : List Char} {ls : List (List Char)}
    (hx : Lexes x a b ls) (hy : PlainText y) : Lexes (x ++ y) a b ls := by
  have h := hx.append (hy.lexes b)
  rwa [List.append_nil] at h

theorem plainText_encode {cs : List Char} (h : ∀ c ∈ cs, isPlain c = true) :
    PlainText (Utf8.encode cs) :=
  ⟨Utf8.isValid_encode cs, by rwa [Utf8.runes_encode]⟩

/-- The byte is a plain character of ASCII. -/
def isPlainByte (b : UInt8) : Bool := b < 0x80 && isPlain (Char.ofNat b.toNat)

theorem isPlainByte_iff {b : UInt8} :
    isPlainByte b = true ↔ b < 0x80 ∧ isPlain (Char.ofNat b.toNat) = true := by
  rw [isPlainByte, Bool.and_eq_true, decide_eq_true_iff]

theorem plainText_of_forall {bs : Bytes} (h : ∀ b ∈ bs, isPlainByte b = true) : PlainText bs := by
  have hascii : ∀ b ∈ bs, b < 0x80 := fun b hb => (isPlainByte_iff.mp (h b hb)).1
  refine ⟨Utf8.isValid_ascii hascii, ?_⟩
  rw [Utf8.runes_ascii hascii]
  exact List.forall_mem_map.mpr fun b hb => (isPlainByte_iff.mp (h b hb)).2

theorem plainText_ascii {bs : Bytes} (h : bs.all isPlainByte = true) : PlainText bs :=
  plainText_of_forall (List.all_eq_true.mp h)

end RpcBindings.Code.Lexical
