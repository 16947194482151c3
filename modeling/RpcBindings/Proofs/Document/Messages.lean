import RpcBindings.Proofs.Document.Grammar
import RpcBindings.Proofs.Text.Quoted

/-!
# What messages tell (SPEC §7)

A complaint is right or wrong about a value.  Its wording alone says as much as the complaint:
which key an object lacks, of which kind a value is and of which it should be, or that an array is
empty.  So what is proved of complaints can be relied on by whoever has only the message.
-/

set_option autoImplicit false

namespace RpcBindings.Document

open RpcBindings.Json (Kind)

/-- The complaint is right about the value.  Of a value it is never right that it is no JSON. -/
def Complaint.RightAbout : Complaint → Json → Prop
  | .invalidJson, _ => False
  | .notObject _ got, v => got = v.kind ∧ got ≠ .object
  | .wrongKind wanted got, v => got = v.kind ∧ got ≠ wanted
  | .missing key, v => ∃ members, v = .object members ∧ Lacks members key
  | .noElementType, v => v = .array []

/-- Small letters only. -/
def IsWord (bs : Bytes) : Prop := ∀ b ∈ bs, 0x61 ≤ b ∧ b ≤ 0x7A

/-- The beginning of a message asks for a kind: by its name, or as an object of a certain part. -/
def Asks (lead : Bytes) (wanted : Kind) : Prop :=
  lead = "expected " ++ wanted.name ++ ", " ∨
    ∃ part : Part, lead = part.demand ++ ", " ∧ wanted = .object

/-- Whatever the message says of the value is so. -/
structure Tells (message : Bytes) (v : Json) : Prop where
  /-- A key that is called missing is the key of no member. -/
  missing : ∀ key, message = "missing key " ++ quote key →
    ∃ members, v = .object members ∧ Lacks members key
  /-- A kind that is said to be there is the kind of the value, and not the one kind asked for. -/
  got : ∀ lead word, IsWord word → message = lead ++ "got " ++ word →
    word = v.kind.name ∧ word ≠ "nothing" ∧
      ∃ wanted, (∀ kind, Asks lead kind ↔ kind = wanted) ∧ v.kind ≠ wanted
  /-- A list that is said to have no element type has none. -/
  list : message = "LIST type has no element type" → v = .array []

/-! ## The last word of a message -/

theorem append_space_inj {xs ys w z : Bytes} (hw : 0x20 ∉ w) (hz : 0x20 ∉ z)
    (h : xs ++ 0x20 :: w = ys ++ 0x20 :: z) : xs = ys ∧ w = z := by
  -- One of the two beginnings is the longer one, and its rest would put a space into a word.
  obtain ⟨rest, rfl, hrest⟩ | ⟨rest, rfl, hrest⟩ := List.append_eq_append_iff.mp h
  · cases rest with
    | nil => exact ⟨by simp, (List.cons.inj hrest).2⟩
    | cons b rest =>
        rw [(List.cons.inj hrest).2] at hw
        simp at hw
  · cases rest with
    | nil => exact ⟨by simp, (List.cons.inj hrest).2.symm⟩
    | cons b rest =>
        rw [(List.cons.inj hrest).2] at hz
        simp at hz

theorem IsWord.space_notMem {word : Bytes} (h : IsWord word) : 0x20 ∉ word := by
  intro hmem
  exact absurd (h _ hmem).1 (by decide)

theorem isWord_name (kind : Kind) : IsWord kind.name := by
  have hall : (kind.name.all fun b => 0x61 ≤ b && b ≤ 0x7A) = true := by cases kind <;> decide
  intro b hb
  simpa using List.all_eq_true.mp hall b hb

theorem name_injective : Function.Injective Kind.name := by
  intro a b h
  revert h
  cases a <;> cases b <;> decide

theorem append_got_eq (lead word : Bytes) :
    lead ++ "got " ++ word = (lead ++ "got") ++ 0x20 :: word := by
  have hgot : ("got " : Bytes) = Bytes.ofString "got" ++ [0x20] := by decide
  rw [hgot]
  simp only [List.append_assoc, List.singleton_append]

theorem append_comma_got_eq (front word : Bytes) :
    front ++ ", got " ++ word = front ++ ", " ++ "got " ++ word := by
  have hgot : (", got " : Bytes) = Bytes.ofString ", " ++ Bytes.ofString "got " := by decide
  rw [hgot, ← List.append_assoc]

/-- What a message says to be there can be told from the rest of it. -/
theorem append_got_inj {front lead word : Bytes} {kind : Kind} (hword : IsWord word)
    (h : front ++ "got " ++ kind.name = lead ++ "got " ++ word) :
    front = lead ∧ word = kind.name := by
  rw [append_got_eq, append_got_eq] at h
  obtain ⟨hfront, hkind⟩ :=
    append_space_inj (isWord_name kind).space_notMem hword.space_notMem h
  exact ⟨List.append_cancel_right hfront, hkind.symm⟩

theorem name_ne_nothing (kind : Kind) : kind.name ≠ "nothing" := by cases kind <;> decide

/-! ## What a message asks for -/

theorem expected_ne_demand (bs cs : Bytes) (part : Part) :
    ("expected " : Bytes) ++ bs ≠ part.demand ++ cs := by
  intro h
  cases part
  case enumeration => exact absurd (List.cons.inj (List.cons.inj h).2).1 (by decide)
  case enumerationValue => exact absurd (List.cons.inj (List.cons.inj h).2).1 (by decide)
  all_goals exact absurd (List.cons.inj h).1 (by decide)

theorem asks_expected_iff {wanted kind : Kind} :
    Asks ("expected " ++ wanted.name ++ ", ") kind ↔ kind = wanted := by
  constructor
  · rintro (h | ⟨part, h, _⟩)
    · have hname := List.append_cancel_left (List.append_cancel_right h)
      exact (name_injective hname).symm
    · rw [List.append_assoc] at h
      exact absurd h (expected_ne_demand _ _ part)
  · rintro rfl
    exact .inl rfl

theorem asks_demand_iff {part : Part} {kind : Kind} :
    Asks (part.demand ++ ", ") kind ↔ kind = .object := by
  constructor
  · rintro (h | ⟨_, _, hkind⟩)
    · rw [List.append_assoc] at h
      exact absurd h.symm (expected_ne_demand _ _ part)
    · exact hkind
  · intro h
    exact .inr ⟨part, rfl, h⟩

/-! ## Complaints and their wording -/

/-- A message that asks for one kind and says that another one was got. -/
theorem tells_got {front message : Bytes} {wanted : Kind} {v : Json}
    (hmessage : message = front ++ "got " ++ v.kind.name)
    (hasks : ∀ kind, Asks front kind ↔ kind = wanted) (hkind : v.kind ≠ wanted)
    (hfirst : ∃ b rest, front = b :: rest ∧ b ≠ 0x6D ∧ b ≠ 0x4C) : Tells message v := by
  obtain ⟨b, rest, hfront, hm, hL⟩ := hfirst
  have hbegins : message = b :: (rest ++ "got " ++ v.kind.name) := by
    rw [hmessage, hfront]
    rfl
  refine ⟨?_, ?_, ?_⟩
  · intro key h
    exact absurd (List.cons.inj (hbegins.symm.trans h)).1 hm
  · intro lead word hword h
    obtain ⟨rfl, rfl⟩ := append_got_inj hword (hmessage.symm.trans h)
    exact ⟨rfl, name_ne_nothing _, wanted, hasks, hkind⟩
  · intro h
    exact absurd (List.cons.inj (hbegins.symm.trans h)).1 hL

/-- A message that ends in quoted text does not say what was got. -/
theorem append_quote_ne_got {bs key lead word : Bytes} (hword : IsWord word) :
    bs ++ quote key ≠ lead ++ "got " ++ word := by
  intro h
  have hquote : (bs ++ quote key).getLast? = some 0x22 := by
    rw [quote, ← List.append_assoc]
    exact List.getLast?_concat
  have hlast : (0x20 :: word).getLast? = some 0x22 := by
    rwa [h, append_got_eq, List.getLast?_append_of_ne_nil _ (by simp)] at hquote
  obtain h | h := List.mem_cons.mp (List.mem_of_getLast? hlast)
  · cases h
  · exact absurd (hword _ h).1 (by decide)

theorem noElementType_ne_got {lead word : Bytes} (hword : IsWord word) :
    Complaint.message .noElementType ≠ lead ++ "got " ++ word := by
  intro h
  have hsplit : Complaint.message .noElementType =
      Bytes.ofString "LIST type has no elem" ++ "ent" ++ 0x20 :: Bytes.ofString "type" := by decide
  rw [hsplit, append_got_eq] at h
  obtain ⟨hfront, _⟩ := append_space_inj (by decide) hword.space_notMem h
  exact absurd (List.append_inj' hfront rfl).2 (by decide)

theorem Complaint.RightAbout.tells {complaint : Complaint} {v : Json}
    (h : complaint.RightAbout v) : Tells complaint.message v := by
  cases complaint with
  | invalidJson => exact h.elim
  | notObject part got =>
      obtain ⟨rfl, hkind⟩ := h
      refine tells_got (append_comma_got_eq _ _) (fun _ => asks_demand_iff) hkind ?_
      cases part <;> exact ⟨_, _, rfl, by decide, by decide⟩
  | wrongKind wanted got =>
      obtain ⟨rfl, hkind⟩ := h
      refine tells_got (append_comma_got_eq _ _) (fun _ => asks_expected_iff) hkind ?_
      exact ⟨_, _, rfl, by decide, by decide⟩
  | missing key =>
      refine ⟨?_, ?_, ?_⟩
      · intro other hother
        obtain rfl := quote_injective (List.append_cancel_left hother)
        exact h
      · intro lead word hword hgot
        exact absurd hgot (append_quote_ne_got hword)
      · intro hlist
        exact absurd (List.cons.inj hlist).1 (by decide)
  | noElementType =>
      refine ⟨?_, ?_, ?_⟩
      · intro key hmissing
        exact absurd (List.cons.inj hmissing).1 (by decide)
      · intro lead word hword hgot
        exact absurd hgot (noElementType_ne_got hword)
      · intro _
        exact h

end RpcBindings.Document
