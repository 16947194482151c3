import RpcBindings.Proofs.Text.Utf8
import RpcBindings.Settings.Validation

/-!
# Faults of a pattern that a name can reach

A chunk of a pattern is read when matching comes to it.  So a fault in a chunk is met by some name
exactly if something gets past every chunk before it, which is so unless one of these chunks asks for a
character from a set that has none.  With the empty name matching comes to the first chunk only.
-/

set_option autoImplicit false

namespace RpcBindings.Glob

variable {tokens : List Token} {name left : Bytes}

/-! ## Getting past tokens -/

/-- Something gets past the token. -/
def Token.Passable : Token → Prop
  | .byte _ => True
  | .any => True
  | .set negated ranges => ∃ c : Char, (ranges.any fun r => r.1 ≤ c && c ≤ r.2) ≠ negated

theorem firstRune_utf8EncodeChar (c : Char) (more : Bytes) :
    firstRune (String.utf8EncodeChar c ++ more) = some (c, more) := by
  obtain ⟨b, rest, hc, hlead⟩ := Utf8.lead?_utf8EncodeChar c more
  rw [hc, List.cons_append, firstRune]
  simp only [hlead, List.drop_left]

theorem Token.Passable.exists_lead {t : Token} (h : t.Passable) :
    ∃ lead, ∀ tokens more, matchTokens (t :: tokens) (lead ++ more) = matchTokens tokens more := by
  cases t with
  | byte b =>
      refine ⟨[b], ?_⟩
      intro tokens more
      rw [List.singleton_append, matchTokens, if_pos rfl]
  | any =>
      refine ⟨String.utf8EncodeChar 'a', ?_⟩
      intro tokens more
      simp only [matchTokens, firstRune_utf8EncodeChar]
      rfl
  | set negated ranges =>
      obtain ⟨c, hc⟩ := h
      refine ⟨String.utf8EncodeChar c, ?_⟩
      intro tokens more
      simp only [matchTokens, firstRune_utf8EncodeChar]
      rw [if_neg (by simpa using hc)]

/-- Tokens that something gets past match the front of some name, whatever comes behind it. -/
theorem exists_lead (h : ∀ t ∈ tokens, t.Passable) :
    ∃ lead, ∀ more, matchTokens tokens (lead ++ more) = some more := by
  induction tokens with
  | nil => exact ⟨[], fun more => rfl⟩
  | cons t tokens ih =>
      rw [List.forall_mem_cons] at h
      obtain ⟨lead, hlead⟩ := h.1.exists_lead
      obtain ⟨next, hnext⟩ := ih h.2
      refine ⟨lead ++ next, ?_⟩
      intro more
      rw [List.append_assoc, hlead, hnext]

theorem passable_of_matchTokens (h : matchTokens tokens name = some left) :
    ∀ t ∈ tokens, t.Passable := by
  induction tokens generalizing name with
  | nil => simp
  | cons t tokens ih =>
      rw [List.forall_mem_cons]
      cases t with
      | byte b =>
          cases name with
          | nil => cases h
          | cons c rest =>
              rw [matchTokens] at h
              split at h
              · exact ⟨trivial, ih h⟩
              · cases h
      | any =>
          simp only [matchTokens] at h
          split at h
          · cases h
          · split at h
            · cases h
            · exact ⟨trivial, ih h⟩
      | set negated ranges =>
          simp only [matchTokens] at h
          split at h
          · cases h
          · rename_i c rest _
            split at h
            · cases h
            · rename_i hc
              exact ⟨⟨c, by simpa using hc⟩, ih h⟩

/-! ## Getting past chunks -/

theorem exists_of_matchLater {isLast : Bool} (h : matchLater tokens isLast name = some left) :
    ∃ place, matchTokens tokens place = some left := by
  induction name with
  | nil => cases h
  | cons b rest ih =>
      rw [matchLater] at h
      split at h
      · cases h
      · split at h
        · rename_i found hfound
          split at h
          · exact ih h
          · cases h
            exact ⟨rest, hfound⟩
        · exact ih h

/-- A chunk that matches does so at some place of the name. -/
theorem exists_of_matchChunk {starred isLast : Bool}
    (h : matchChunk tokens starred isLast name = some left) :
    ∃ place, matchTokens tokens place = some left := by
  unfold matchChunk at h
  split at h
  · rename_i found hfound
    split at h
    · cases h
      exact ⟨name, hfound⟩
    · split at h
      · exact exists_of_matchLater h
      · cases h
  · split at h
    · exact exists_of_matchLater h
    · cases h

/-- Something gets past the chunk: it can be read, and something gets past each of its tokens. -/
def Chunk.Passable (chunk : Chunk) : Prop :=
  ∃ tokens, tokens? chunk.text = some tokens ∧ ∀ t ∈ tokens, t.Passable

/-- One of the chunks cannot be read, and something gets past each chunk before it. -/
def Reaches (cs : List Chunk) : Prop :=
  ∃ before bad after, cs = before ++ bad :: after ∧ tokens? bad.text = none ∧
    ∀ chunk ∈ before, chunk.Passable

theorem not_reaches_nil : ¬ Reaches [] := by
  rintro ⟨before, bad, after, hcs, -⟩
  simp at hcs

theorem reaches_cons_iff {chunk : Chunk} {cs : List Chunk} :
    Reaches (chunk :: cs) ↔ tokens? chunk.text = none ∨ chunk.Passable ∧ Reaches cs := by
  constructor
  · rintro ⟨before, bad, after, hcs, hbad, hbefore⟩
    cases before with
    | nil =>
        obtain ⟨rfl, -⟩ := List.cons.inj hcs
        exact .inl hbad
    | cons first before =>
        obtain ⟨rfl, htail⟩ := List.cons.inj hcs
        rw [List.forall_mem_cons] at hbefore
        exact .inr ⟨hbefore.1, before, bad, after, htail, hbad, hbefore.2⟩
  · rintro (hbad | ⟨hchunk, before, bad, after, rfl, hbad, hbefore⟩)
    · exact ⟨[], chunk, cs, rfl, hbad, by simp⟩
    · exact ⟨chunk :: before, bad, after, rfl, hbad, List.forall_mem_cons.mpr ⟨hchunk, hbefore⟩⟩

/-- Only a star at the end of a pattern makes a chunk without text. -/
def EndsInStar : List Chunk → Prop
  | [] => True
  | chunk :: rest => (chunk.text = [] → chunk.starred = true ∧ rest = []) ∧ EndsInStar rest

/-- Text that does not start with a star is part of the chunk. -/
theorem eq_nil_of_chunksFrom {pattern : Bytes} (hstar : pattern.head? ≠ some 0x2A)
    (h : (chunksFrom false pattern).1 = []) : pattern = [] := by
  cases pattern with
  | nil => rfl
  | cons b rest =>
      have hb : b ≠ 0x2A := fun heq => hstar (by rw [heq]; rfl)
      unfold chunksFrom at h
      by_cases hslash : b = 0x5C
      · cases rest <;> simp [hslash] at h
      · simp [hslash, hb] at h

theorem endsInStar_chunksFrom (inSet : Bool) (pattern : Bytes) :
    EndsInStar (chunksFrom inSet pattern).2 := by
  fun_induction chunksFrom inSet pattern with
  | case1 => exact trivial
  | case2 => exact trivial
  | case3 => assumption
  | case4 => assumption
  | case5 inSet b rest _ _ next hstar ih =>
      refine ⟨?_, ih⟩
      intro htext
      have hrest : rest = [] := eq_nil_of_chunksFrom hstar htext
      subst hrest
      exact ⟨rfl, rfl⟩
  | case6 => assumption

theorem endsInStar_chunks (pattern : Bytes) : EndsInStar (chunks pattern) := by
  have hstarred := endsInStar_chunksFrom false pattern
  unfold chunks
  split
  · rename_i starred heq
    rwa [heq] at hstarred
  · rename_i text starred hne heq
    rw [heq] at hstarred
    exact ⟨fun hnil => absurd hnil hne, hstarred⟩

/-- Some name meets a fault exactly if one of the chunks has a fault and can be reached. -/
theorem exists_matchChunks_error_iff {cs : List Chunk} (hcs : EndsInStar cs) :
    (∃ name, matchChunks cs name = .error .badPattern) ↔ Reaches cs := by
  induction cs with
  | nil => simp [matchChunks, not_reaches_nil]
  | cons chunk cs ih =>
      rw [reaches_cons_iff, ← ih hcs.2]
      simp only [matchChunks]
      by_cases htext : chunk.text = []
      · -- The star at the end takes any name that is left.
        obtain ⟨hstarred, rfl⟩ := hcs.1 htext
        simp [htext, hstarred, matchChunks, tokens?]
      · simp only [List.isEmpty_eq_false_iff.mpr htext, Bool.and_false, Bool.false_eq_true, if_false]
        cases htokens : tokens? chunk.text with
        | none => simp
        | some tokens =>
            simp only [reduceCtorEq, false_or]
            constructor
            · rintro ⟨name, hname⟩
              split at hname
              · rename_i left hleft
                obtain ⟨place, hplace⟩ := exists_of_matchChunk hleft
                exact ⟨⟨tokens, htokens, passable_of_matchTokens hplace⟩, left, hname⟩
              · cases hname
            · rintro ⟨⟨tokens', htokens', hpass⟩, name, hname⟩
              obtain rfl : tokens = tokens' := Option.some.inj (htokens.symm.trans htokens')
              obtain ⟨lead, hlead⟩ := exists_lead hpass
              have hnext : cs ≠ [] := by
                rintro rfl
                cases hname
              refine ⟨lead ++ name, ?_⟩
              simp only [matchChunk, hlead, List.isEmpty_eq_false_iff.mpr hnext, Bool.not_false,
                Bool.or_true, if_true]
              exact hname

/-- The pattern gives an answer for every name exactly if none of its faults can be reached. -/
theorem forall_matches?_ok_iff (pattern : Bytes) :
    (∀ name, ∃ answer, matches? pattern name = .ok answer) ↔ ¬ Reaches (chunks pattern) := by
  rw [← exists_matchChunks_error_iff (endsInStar_chunks pattern), not_exists]
  refine forall_congr' ?_
  intro name
  change (∃ answer, matchChunks (chunks pattern) name = .ok answer) ↔ _
  cases matchChunks (chunks pattern) name with
  | ok answer => simp
  | error fault => cases fault; simp

/-! ## The empty name -/

theorem eq_nil_of_tokens? {text : Bytes} (h : tokens? text = some []) : text = [] := by
  -- Whatever a chunk with text begins with gives a token, or the chunk cannot be read.
  revert h
  fun_cases tokens? text <;> simp

/-- The empty name has nothing for a token to match. -/
theorem matchChunk_nil (starred isLast : Bool) (h : tokens ≠ []) :
    matchChunk tokens starred isLast [] = none := by
  cases tokens with
  | nil => exact absurd rfl h
  | cons t tokens => cases t <;> cases starred <;> rfl

/-- Matching a pattern with the empty name tells whether its first chunk can be read, and nothing
else. -/
theorem isGlob_iff (pattern : Bytes) :
    Settings.isGlob pattern = true ↔
      ∀ chunk ∈ (chunks pattern).head?, (tokens? chunk.text).isSome = true := by
  have hends := endsInStar_chunks pattern
  unfold Settings.isGlob matches?
  cases hchunks : chunks pattern with
  | nil => simp [matchChunks]
  | cons chunk cs =>
      rw [hchunks] at hends
      simp only [List.head?_cons, Option.mem_some_iff, forall_eq', matchChunks]
      by_cases htext : chunk.text = []
      · obtain ⟨hstarred, -⟩ := hends.1 htext
        simp [htext, hstarred, tokens?]
      · rw [if_neg (by simp [htext])]
        cases htokens : tokens? chunk.text with
        | none => simp
        | some tokens =>
            have hne : tokens ≠ [] := by
              rintro rfl
              exact htext (eq_nil_of_tokens? htokens)
            simp [matchChunk_nil _ _ hne]

end RpcBindings.Glob
