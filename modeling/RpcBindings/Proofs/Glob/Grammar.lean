import RpcBindings.Proofs.Glob.Reach

/-!
# The grammar of patterns

A pattern is well formed if it is a sequence of terms: stars, question marks, sets, protected bytes, and
bytes that stand for themselves.  A text can be read exactly if it is well formed, and a pattern is well
formed exactly if all of its chunks are, for a star that separates chunks is never part of another term.
Matching a pattern with the empty name looks at the first chunk only.
-/

set_option autoImplicit false

namespace RpcBindings.Glob

/-! ## The grammar -/

/-- A character of a set: one that has no meaning there, or any one behind a backslash. -/
inductive SetChar : Bytes → Prop where
  | plain {c : Char} : c ≠ '-' → c ≠ ']' → c ≠ '\\' → SetChar (String.utf8EncodeChar c)
  | guarded (c : Char) : SetChar (0x5C :: String.utf8EncodeChar c)

/-- A range of a set: a character, or two with a dash between them. -/
inductive SetRange : Bytes → Prop where
  | one {char : Bytes} : SetChar char → SetRange char
  | between {lo hi : Bytes} : SetChar lo → SetChar hi → SetRange (lo ++ 0x2D :: hi)

/-- Ranges one after another, at least one. -/
inductive SetRanges : Bytes → Prop where
  | last {range : Bytes} : SetRange range → SetRanges range
  | more {range rest : Bytes} : SetRange range → SetRanges rest → SetRanges (range ++ rest)

/-- A term of a pattern, other than a star.  A caret at the front of a set turns it into its opposite
and is part of no range. -/
inductive Term : Bytes → Prop where
  | any : Term [0x3F]
  | set {ranges : Bytes} : SetRanges ranges → ranges.head? ≠ some 0x5E →
      Term (0x5B :: ranges ++ [0x5D])
  | setNot {ranges : Bytes} : SetRanges ranges → Term (0x5B :: 0x5E :: ranges ++ [0x5D])
  | guarded (b : UInt8) : Term [0x5C, b]
  | byte {b : UInt8} : b ≠ 0x2A → b ≠ 0x3F → b ≠ 0x5B → b ≠ 0x5C → Term [b]

/-- The text is a well-formed pattern: a sequence of terms. -/
inductive Derives : Bytes → Prop where
  | nil : Derives []
  | star {rest : Bytes} : Derives rest → Derives (0x2A :: rest)
  | term {t rest : Bytes} : Term t → Derives rest → Derives (t ++ rest)

/-! ## Characters of a set -/

section

variable {chunk rest char : Bytes} {c : Char}

theorem plainChar?_eq_some (h : plainChar? chunk = some (c, rest)) :
    chunk = String.utf8EncodeChar c ++ rest ∧ rest ≠ [] := by
  cases chunk with
  | nil => cases h
  | cons b more =>
      simp only [plainChar?] at h
      split at h
      · cases h
      · rename_i d n hlead
        split at h
        · cases h
        · rename_i hmore
          obtain ⟨rfl, rfl⟩ := Prod.mk.inj (Option.some.inj h)
          obtain ⟨tail, hsplit, hchar⟩ := Utf8.utf8EncodeChar_of_lead? hlead
          refine ⟨?_, by simpa using hmore⟩
          rw [hchar, List.cons_append, ← hsplit]

theorem plainChar?_append (c : Char) (h : rest ≠ []) :
    plainChar? (String.utf8EncodeChar c ++ rest) = some (c, rest) := by
  obtain ⟨b, tail, hchar, hlead⟩ := Utf8.lead?_utf8EncodeChar c rest
  rw [hchar, List.cons_append, plainChar?]
  simp only [hlead, List.drop_left]
  simp [h]

/-- The bytes that have a meaning in a set, its caret apart, are in no plain character. -/
theorem SetChar.not_mem_of_plain (hdash : c ≠ '-') (hclose : c ≠ ']') (hslash : c ≠ '\\') :
    0x2D ∉ String.utf8EncodeChar c ∧ 0x5D ∉ String.utf8EncodeChar c ∧
      0x5C ∉ String.utf8EncodeChar c :=
  ⟨Utf8.not_mem_utf8EncodeChar (by decide) hdash, Utf8.not_mem_utf8EncodeChar (by decide) hclose,
    Utf8.not_mem_utf8EncodeChar (by decide) hslash⟩

theorem setChar?_eq_some (h : setChar? chunk = some (c, rest)) :
    ∃ char, SetChar char ∧ chunk = char ++ rest ∧ rest ≠ [] := by
  cases chunk with
  | nil => cases h
  | cons b more =>
      rw [setChar?] at h
      split at h
      · cases h
      · rename_i hmeaning
        split at h
        · rename_i hslash
          obtain ⟨rfl, hrest⟩ := plainChar?_eq_some h
          exact ⟨0x5C :: String.utf8EncodeChar c, .guarded c, by rw [hslash]; rfl, hrest⟩
        · rename_i hslash
          obtain ⟨hchunk, hrest⟩ := plainChar?_eq_some h
          rw [not_or] at hmeaning
          refine ⟨_, .plain ?_ ?_ ?_, hchunk, hrest⟩
          · rintro rfl
            exact hmeaning.1 (List.cons.inj hchunk).1
          · rintro rfl
            exact hmeaning.2 (List.cons.inj hchunk).1
          · rintro rfl
            exact hslash (List.cons.inj hchunk).1

/-- A character of a set starts neither with a dash nor with a closing bracket. -/
theorem SetChar.exists_cons (h : SetChar char) :
    ∃ b tail, char = b :: tail ∧ b ≠ 0x2D ∧ b ≠ 0x5D := by
  cases h with
  | guarded c => exact ⟨0x5C, _, rfl, by decide, by decide⟩
  | plain hdash hclose hslash =>
      rename_i c
      obtain ⟨hdash, hclose, -⟩ := not_mem_of_plain hdash hclose hslash
      obtain ⟨b, tail, hchar, -⟩ := Utf8.lead?_utf8EncodeChar c []
      rw [hchar] at hdash hclose ⊢
      rw [List.mem_cons, not_or] at hdash hclose
      exact ⟨b, tail, rfl, Ne.symm hdash.1, Ne.symm hclose.1⟩

theorem setChar?_append (h : SetChar char) (hrest : rest ≠ []) :
    ∃ c, setChar? (char ++ rest) = some (c, rest) := by
  cases h with
  | guarded c => exact ⟨c, plainChar?_append c hrest⟩
  | plain hdash hclose hslash =>
      rename_i c
      obtain ⟨hdash, hclose, hslash⟩ := SetChar.not_mem_of_plain hdash hclose hslash
      have hplain := plainChar?_append c hrest
      obtain ⟨b, tail, hchar, -⟩ := Utf8.lead?_utf8EncodeChar c []
      rw [hchar] at hdash hclose hslash hplain ⊢
      rw [List.mem_cons, not_or] at hdash hclose hslash
      refine ⟨c, ?_⟩
      rw [List.cons_append, setChar?, if_neg (not_or.mpr ⟨Ne.symm hdash.1, Ne.symm hclose.1⟩),
        if_neg (Ne.symm hslash.1)]
      exact hplain

end

/-! ## Ranges -/

section

variable {chunk text rest range : Bytes} {started : Bool} {ranges : List (Char × Char)}

/-- The text is the rest of a set, with its closing bracket, and what follows it. -/
def EndsSet (started : Bool) (text rest : Bytes) : Prop :=
  (started = true ∧ text = 0x5D :: rest) ∨
    ∃ ranges, SetRanges ranges ∧ text = ranges ++ 0x5D :: rest

theorem EndsSet.cons (h : EndsSet true text rest) (hrange : SetRange range) :
    EndsSet started (range ++ text) rest := by
  rcases h with ⟨-, rfl⟩ | ⟨ranges, hranges, rfl⟩
  · exact .inr ⟨range, .last hrange, rfl⟩
  · exact .inr ⟨range ++ ranges, .more hrange hranges, by rw [List.append_assoc]⟩

theorem endsSet_of_readRanges (h : readRanges started chunk = some (ranges, rest)) :
    EndsSet started chunk rest := by
  fun_induction readRanges started chunk generalizing ranges rest with
  | case1 started chunk hs =>
      obtain ⟨hstarted, hhead⟩ := Bool.and_eq_true_iff.mp hs
      obtain ⟨-, rfl⟩ := Prod.mk.inj (Option.some.inj h)
      refine .inl ⟨hstarted, ?_⟩
      exact (List.cons_head?_tail (by simpa using hhead)).symm
  | case2 => simp at h
  | case3 => simp at h
  | case4 => simp at h
  | case5 started chunk _ lo mid hmid _ hdash hi tail htail _ rs last hrec ih =>
      obtain ⟨-, rfl⟩ := Prod.mk.inj (Option.some.inj h)
      obtain ⟨loChar, hlo, rfl, -⟩ := setChar?_eq_some hmid
      obtain ⟨hiChar, hhi, hmidTail, -⟩ := setChar?_eq_some htail
      have hmid : mid = 0x2D :: (hiChar ++ tail) := by
        rw [← hmidTail]
        exact (List.cons_head?_tail (by simpa using hdash)).symm
      rw [hmid, ← List.cons_append, ← List.append_assoc]
      exact (ih hrec).cons (.between hlo hhi)
  | case6 => simp at h
  | case7 started chunk _ lo mid hmid _ _ rs last hrec ih =>
      obtain ⟨-, rfl⟩ := Prod.mk.inj (Option.some.inj h)
      obtain ⟨char, hchar, rfl, -⟩ := setChar?_eq_some hmid
      exact (ih hrec).cons (.one hchar)

theorem SetRange.exists_cons (h : SetRange range) :
    ∃ b tail, range = b :: tail ∧ b ≠ 0x2D ∧ b ≠ 0x5D := by
  cases h with
  | one hchar => exact hchar.exists_cons
  | between hlo hhi =>
      obtain ⟨b, tail, rfl, hdash, hclose⟩ := hlo.exists_cons
      exact ⟨b, _, rfl, hdash, hclose⟩

theorem SetRanges.exists_cons (h : SetRanges text) :
    ∃ b tail, text = b :: tail ∧ b ≠ 0x2D ∧ b ≠ 0x5D := by
  cases h with
  | last hrange => exact hrange.exists_cons
  | more hrange _ =>
      obtain ⟨b, tail, rfl, hdash, hclose⟩ := hrange.exists_cons
      exact ⟨b, _, rfl, hdash, hclose⟩

/-- A range is read, and then the text behind it, which starts with no dash. -/
theorem readRanges_range (hrange : SetRange range) {b : UInt8} (hb : b ≠ 0x2D)
    (htext : readRanges true (b :: text) = some (ranges, rest)) (started : Bool) :
    ∃ ranges, readRanges started (range ++ b :: text) = some (ranges, rest) := by
  obtain ⟨first, tail, hfirst, -, hclose⟩ := hrange.exists_cons
  rw [readRanges, if_neg (by simp [hfirst, hclose])]
  cases hrange with
  | one hchar =>
      obtain ⟨c, hc⟩ := setChar?_append hchar (List.cons_ne_nil b text)
      split
      · simp_all
      · rename_i lo mid hmid
        obtain ⟨rfl, rfl⟩ := Prod.mk.inj (Option.some.inj (hc.symm.trans hmid))
        rw [if_neg (by simpa using hb), htext]
        exact ⟨_, rfl⟩
  | between hlo hhi =>
      rename_i lo hi
      rw [List.append_assoc, List.cons_append]
      obtain ⟨c, hc⟩ := setChar?_append hlo (List.cons_ne_nil 0x2D (hi ++ b :: text))
      obtain ⟨d, hd⟩ := setChar?_append hhi (List.cons_ne_nil b text)
      split
      · simp_all
      · rename_i lo mid hmid
        obtain ⟨rfl, rfl⟩ := Prod.mk.inj (Option.some.inj (hc.symm.trans hmid))
        rw [if_pos List.head?_cons]
        split
        · simp_all
        · rename_i hi' tail' htail
          obtain ⟨rfl, rfl⟩ := Prod.mk.inj (Option.some.inj (hd.symm.trans htail))
          rw [htext]
          exact ⟨_, rfl⟩

theorem readRanges_append (h : SetRanges text) (started : Bool) (rest : Bytes) :
    ∃ ranges, readRanges started (text ++ 0x5D :: rest) = some (ranges, rest) := by
  induction h generalizing started with
  | last hrange =>
      have hclosed : readRanges true (0x5D :: rest) = some ([], rest) := by
        rw [readRanges]
        rfl
      exact readRanges_range hrange (by decide) hclosed started
  | more hrange hrest ih =>
      obtain ⟨b, tail, rfl, hdash, -⟩ := hrest.exists_cons
      obtain ⟨ranges, hranges⟩ := ih true
      rw [List.append_assoc]
      exact readRanges_range hrange hdash hranges started

end

/-! ## Reading a text -/

section

variable {text rest : Bytes} {ranges : List (Char × Char)}

/-- What stands behind an opening bracket, without the caret at its front. -/
def uncaret (text : Bytes) : Bytes := if text.head? == some 0x5E then text.tail else text

theorem term_of_readRanges (h : readRanges false (uncaret text) = some (ranges, rest)) :
    ∃ t, Term t ∧ 0x5B :: text = t ++ rest := by
  obtain ⟨hstarted, -⟩ | ⟨body, hbody, htext⟩ := endsSet_of_readRanges h
  · cases hstarted
  · unfold uncaret at htext
    split at htext
    · rename_i hcaret
      have hhead : text.head? = some 0x5E := by simpa using hcaret
      refine ⟨_, .setNot hbody, ?_⟩
      rw [← List.cons_head?_tail hhead, htext]
      simp
    · rename_i hcaret
      refine ⟨_, .set hbody ?_, by rw [htext]; simp⟩
      intro hhead
      obtain ⟨b, tail, rfl, -⟩ := hbody.exists_cons
      exact hcaret (by rw [htext]; simpa using hhead)

theorem derives_of_tokens? (h : (tokens? text).isSome = true) : Derives text := by
  fun_induction tokens? text with
  | case1 => exact .nil
  | case4 text negated ranges rest hranges _ tokens htokens ih =>
      obtain ⟨t, ht, htext⟩ := term_of_readRanges hranges
      rw [htext]
      exact .term ht (ih (by simp [htokens]))
  | case6 rest tokens htokens _ ih => exact .term .any (ih (by simp [htokens]))
  | case9 c rest tokens htokens _ _ ih => exact .term (.guarded c) (ih (by simp [htokens]))
  | case11 b rest hset hany hguard tokens htokens ih =>
      have hrest := ih (by simp [htokens])
      by_cases hstar : b = 0x2A
      · rw [hstar]
        exact .star hrest
      · exact .term (.byte hstar hany hset hguard) hrest
  | case2 | case3 | case5 | case7 | case8 | case10 => cases h

theorem isSome_tokens?_byte {b : UInt8} (hset : b ≠ 0x5B) (hany : b ≠ 0x3F) (hguard : b ≠ 0x5C) :
    (tokens? (b :: rest)).isSome = (tokens? rest).isSome := by
  rw [tokens?.eq_def]
  simp only [if_neg hset, if_neg hany, if_neg hguard]
  cases tokens? rest <;> rfl

theorem isSome_tokens?_set (h : readRanges false (uncaret text) = some (ranges, rest)) :
    (tokens? (0x5B :: text)).isSome = (tokens? rest).isSome := by
  rw [tokens?.eq_def]
  simp only [if_true]
  split
  · rename_i hnone
    cases hnone.symm.trans h
  · rename_i found left hfound
    obtain ⟨rfl, rfl⟩ := Prod.mk.inj (Option.some.inj (hfound.symm.trans h))
    cases tokens? left <;> rfl

/-- A term in front does not matter to whether the rest can be read. -/
theorem Term.isSome_tokens? {t : Bytes} (h : Term t) (rest : Bytes) :
    (tokens? (t ++ rest)).isSome = (tokens? rest).isSome := by
  cases h with
  | any =>
      rw [List.singleton_append, tokens?.eq_def]
      simp only [if_neg (by decide : ¬ (0x3F : UInt8) = 0x5B), if_true]
      cases tokens? rest <;> rfl
  | guarded b =>
      rw [List.cons_append, List.singleton_append, tokens?]
      cases tokens? rest <;> rfl
  | byte _ hany hset hguard => exact isSome_tokens?_byte hset hany hguard
  | set hranges hcaret =>
      rename_i body
      obtain ⟨ranges, hread⟩ := readRanges_append hranges false rest
      obtain ⟨b, tail, rfl, -⟩ := hranges.exists_cons
      have huncaret : uncaret (b :: tail ++ 0x5D :: rest) = b :: tail ++ 0x5D :: rest :=
        if_neg (by simpa using hcaret)
      rw [List.append_assoc, List.singleton_append, List.cons_append]
      exact isSome_tokens?_set (huncaret.symm ▸ hread)
  | setNot hranges =>
      obtain ⟨ranges, hread⟩ := readRanges_append hranges false rest
      rw [List.append_assoc, List.singleton_append, List.cons_append, List.cons_append]
      exact isSome_tokens?_set hread

/-- A text can be read exactly if it is well formed. -/
theorem isSome_tokens?_iff : (tokens? text).isSome = true ↔ Derives text := by
  constructor
  · exact derives_of_tokens?
  · intro h
    induction h with
    | nil => rw [tokens?]; rfl
    | star _ ih => rwa [isSome_tokens?_byte (by decide) (by decide) (by decide)]
    | term ht _ ih => rwa [ht.isSome_tokens?]

end

/-! ## Cutting into chunks -/

/-- Cutting into chunks finds no star in the text.  `inSet` tells whether it is inside a set before the
text, and `after` whether it is behind it. -/
def Passes (inSet : Bool) (text : Bytes) (after : Bool) : Prop :=
  ∀ rest, chunksFrom inSet (text ++ rest) =
    (text ++ (chunksFrom after rest).1, (chunksFrom after rest).2)

section

variable {inSet mid after : Bool} {text more : Bytes}

theorem Passes.append (htext : Passes inSet text mid) (hmore : Passes mid more after) :
    Passes inSet (text ++ more) after := by
  intro rest
  rw [List.append_assoc, htext, hmore, List.append_assoc]

theorem passes_byte {b : UInt8} (hguard : b ≠ 0x5C) (hstar : b = 0x2A → inSet = true) :
    Passes inSet [b] (if b = 0x5B then true else if b = 0x5D then false else inSet) := by
  intro rest
  have hcut : ¬ (b = 0x2A && !inSet) = true := by simpa using hstar
  rw [List.singleton_append, chunksFrom.eq_def]
  simp only [if_neg hguard, if_neg hcut]
  rfl

theorem passes_guarded (b : UInt8) : Passes inSet [0x5C, b] inSet := by
  intro rest
  rw [List.cons_append, List.singleton_append, chunksFrom]
  rfl

/-- Inside a set only a backslash and a closing bracket count. -/
theorem passes_inside (hguard : 0x5C ∉ text) (hclose : 0x5D ∉ text) : Passes true text true := by
  induction text with
  | nil => exact fun rest => rfl
  | cons b text ih =>
      rw [List.mem_cons, not_or] at hguard hclose
      have hb : Passes true [b] _ := passes_byte (Ne.symm hguard.1) fun _ => rfl
      rw [if_neg (Ne.symm hclose.1), ite_self] at hb
      exact hb.append (ih hguard.2 hclose.2)

theorem SetChar.passes (h : SetChar text) : Passes true text true := by
  cases h with
  | plain hdash hclose hslash =>
      obtain ⟨-, hclose, hguard⟩ := not_mem_of_plain hdash hclose hslash
      exact passes_inside hguard hclose
  | guarded c =>
      by_cases hslash : c = '\\'
      · rw [hslash]
        exact passes_guarded 0x5C
      · by_cases hclose : c = ']'
        · rw [hclose]
          exact passes_guarded 0x5D
        · have hguard := Utf8.not_mem_utf8EncodeChar (b := 0x5C) (by decide) hslash
          have hclosed := Utf8.not_mem_utf8EncodeChar (b := 0x5D) (by decide) hclose
          obtain ⟨b, tail, hchar, -⟩ := Utf8.lead?_utf8EncodeChar c []
          rw [hchar, List.mem_cons, not_or] at hguard hclosed
          rw [hchar]
          exact (passes_guarded b).append (passes_inside hguard.2 hclosed.2)

theorem SetRange.passes (h : SetRange text) : Passes true text true := by
  cases h with
  | one hchar => exact hchar.passes
  | between hlo hhi =>
      have hdash : Passes true [0x2D] true := passes_byte (by decide) (by decide)
      exact hlo.passes.append (hdash.append hhi.passes)

theorem SetRanges.passes (h : SetRanges text) : Passes true text true := by
  induction h with
  | last hrange => exact hrange.passes
  | more hrange _ ih => exact hrange.passes.append ih

/-- A star is never part of another term. -/
theorem Term.passes (h : Term text) : Passes false text false := by
  have hopen : Passes false [0x5B] true := passes_byte (by decide) (by decide)
  have hclose : Passes true [0x5D] false := passes_byte (by decide) (by decide)
  have hcaret : Passes true [0x5E] true := passes_byte (by decide) (by decide)
  cases h with
  | any => exact passes_byte (by decide) (by decide)
  | guarded b => exact passes_guarded b
  | byte hstar hany hset hguard =>
      have hb : Passes false [_] _ := passes_byte hguard fun heq => absurd heq hstar
      rwa [if_neg hset, ite_self] at hb
  | set hranges _ => exact (hopen.append hranges.passes).append hclose
  | setNot hranges => exact (hopen.append (hcaret.append hranges.passes)).append hclose

end

section

variable {pattern : Bytes}

theorem Derives.append {text rest : Bytes} (htext : Derives text) (hrest : Derives rest) :
    Derives (text ++ rest) := by
  induction htext with
  | nil => exact hrest
  | star _ ih => exact .star ih
  | term ht _ ih =>
      rw [List.append_assoc]
      exact .term ht ih

theorem chunksFrom_star (rest : Bytes) :
    chunksFrom false (0x2A :: rest) =
      if rest.head? = some 0x2A then chunksFrom false rest
      else ([], ⟨true, (chunksFrom false rest).1⟩ :: (chunksFrom false rest).2) := by
  rw [chunksFrom.eq_def]
  rfl

theorem Derives.chunksFrom (h : Derives pattern) :
    Derives (Glob.chunksFrom false pattern).1 ∧
      ∀ chunk ∈ (Glob.chunksFrom false pattern).2, Derives chunk.text := by
  induction h with
  | nil => exact ⟨.nil, by simp [Glob.chunksFrom]⟩
  | star _ ih =>
      rw [chunksFrom_star]
      split
      · exact ih
      · exact ⟨.nil, List.forall_mem_cons.mpr ih⟩
  | term ht _ ih =>
      rw [ht.passes]
      exact ⟨.term ht ih.1, ih.2⟩

theorem fst_chunksFrom_star (rest : Bytes) : (Glob.chunksFrom false (0x2A :: rest)).1 = [] := by
  induction rest with
  | nil => rfl
  | cons b rest ih =>
      rw [chunksFrom_star]
      split
      · rename_i hstar
        obtain rfl : b = 0x2A := Option.some.inj hstar
        exact ih
      · rfl

/-- Behind its first text a pattern consists of stars and the texts of its chunks. -/
theorem exists_tail_chunksFrom (inSet : Bool)
    (h : ∀ chunk ∈ (Glob.chunksFrom inSet pattern).2, Derives chunk.text) :
    ∃ tail, Derives tail ∧ pattern = (Glob.chunksFrom inSet pattern).1 ++ tail := by
  fun_induction Glob.chunksFrom inSet pattern with
  | case1 => exact ⟨[], .nil, rfl⟩
  | case2 => exact ⟨[], .nil, rfl⟩
  | case3 inSet c rest next ih =>
      obtain ⟨tail, htail, hrest⟩ := ih h
      exact ⟨tail, htail, congrArg (0x5C :: c :: ·) hrest⟩
  | case4 inSet b rest _ hcut next hnext ih =>
      obtain ⟨rfl, -⟩ : b = 0x2A ∧ inSet = false := by simpa using hcut
      obtain ⟨tail, htail, hrest⟩ := ih h
      have hnil : next.1 = [] := by
        simp only [next]
        rw [← List.cons_head?_tail hnext]
        exact fst_chunksFrom_star _
      refine ⟨0x2A :: tail, .star htail, ?_⟩
      rw [hnil, List.nil_append]
      exact congrArg (0x2A :: ·) (hrest.trans (congrArg (· ++ tail) hnil))
  | case5 inSet b rest _ hcut next _ ih =>
      obtain ⟨rfl, -⟩ : b = 0x2A ∧ inSet = false := by simpa using hcut
      obtain ⟨hfirst, hnext⟩ := List.forall_mem_cons.mp h
      obtain ⟨tail, htail, hrest⟩ := ih hnext
      refine ⟨0x2A :: rest, .star ?_, rfl⟩
      rw [hrest]
      exact hfirst.append htail
  | case6 inSet b rest _ _ next ih =>
      obtain ⟨tail, htail, hrest⟩ := ih h
      exact ⟨tail, htail, congrArg (b :: ·) hrest⟩

theorem forall_mem_chunks_iff :
    (∀ chunk ∈ chunks pattern, Derives chunk.text) ↔
      Derives (Glob.chunksFrom false pattern).1 ∧
        ∀ chunk ∈ (Glob.chunksFrom false pattern).2, Derives chunk.text := by
  unfold chunks
  split
  · rename_i starred heq
    simp [heq, Derives.nil]
  · rename_i text starred _ heq
    rw [heq]
    exact List.forall_mem_cons

/-- A pattern is well formed exactly if each of its chunks is. -/
theorem derives_iff_chunks :
    Derives pattern ↔ ∀ chunk ∈ chunks pattern, Derives chunk.text := by
  rw [forall_mem_chunks_iff]
  constructor
  · exact Derives.chunksFrom
  · rintro ⟨hfirst, hchunks⟩
    obtain ⟨tail, htail, hpattern⟩ := exists_tail_chunksFrom false hchunks
    rw [hpattern]
    exact hfirst.append htail

/-- The check of a pattern accepts it exactly if its first chunk is well formed. -/
theorem isGlob_iff_derives :
    Settings.isGlob pattern = true ↔ ∀ chunk ∈ (chunks pattern).head?, Derives chunk.text := by
  simp only [isGlob_iff, isSome_tokens?_iff]

end

end RpcBindings.Glob
