import RpcBindings.Generation.Job
import RpcBindings.Proofs.Text.Bytes

/-!
# Options given in several texts (SPEC §8)

A text of options is read into pairs, and of the pairs with one key only the last is looked at.  So what
a text does to settings is told by the last value of each key: it is the new value of the setting, and a
setting whose key does not occur keeps the value it has.  In this form a text that goes on with another
one does what the two do in turn, and the order of pairs counts for each key by itself.
-/

set_option autoImplicit false

namespace RpcBindings.Options

/-! ## Settings by their keys -/

/-- The value of a setting. -/
inductive Value where
  | text (bs : Bytes)
  | number (n : Int)
  | switch (on : Bool)
  deriving DecidableEq, Repr, Inhabited

/-- The value of the setting that a key stands for. -/
def valueOf (s : Settings) : Key → Value
  | .servicesPath => .text s.servicesPath
  | .clientPath => .text s.clientPath
  | .schemaPath => .text s.schemaPath
  | .outputFile => .text s.outputFile
  | .pattern => .text s.pattern
  | .indentSize => .number s.indentSize
  | .debugResponses => .switch s.debugResponses
  | .frontmatter => .switch !s.noFrontmatter

/-- The value that a text gives the setting of a key. -/
def read? : Key → Bytes → Option Value
  | .servicesPath, v | .clientPath, v | .schemaPath, v | .outputFile, v | .pattern, v => some (.text v)
  | .indentSize, v => (integer? v).map .number
  | .debugResponses, v | .frontmatter, v => (switch? v).map .switch

/-- The text as a value, if it is not empty. -/
def textSaid (bs : Bytes) : Option Value := if bs = [] then none else some (.text bs)

/-- What options say about the setting of a key. -/
def said (o : Options) : Key → Option Value
  | .servicesPath => textSaid o.servicesPath
  | .clientPath => textSaid o.clientPath
  | .schemaPath => textSaid o.schemaPath
  | .outputFile => textSaid o.outputFile
  | .pattern => textSaid o.pattern
  | .indentSize => o.indentSize.map .number
  | .debugResponses => o.debugResponses.map .switch
  | .frontmatter => o.frontmatter.map .switch

theorem textSaid_injective {bs cs : Bytes} (h : textSaid bs = textSaid cs) : bs = cs := by
  unfold textSaid at h
  split at h <;> split at h <;> simp_all

/-- Options that say the same about each key are the same. -/
theorem eq_of_said_eq {o p : Options} (h : ∀ k, o.said k = p.said k) : o = p := by
  have hnumber : Function.Injective (Option.map Value.number) :=
    Option.map_injective fun _ _ heq => Value.number.inj heq
  have hswitch : Function.Injective (Option.map Value.switch) :=
    Option.map_injective fun _ _ heq => Value.switch.inj heq
  obtain ⟨⟩ := o
  obtain ⟨⟩ := p
  rw [Options.mk.injEq]
  exact ⟨textSaid_injective (h .servicesPath), textSaid_injective (h .clientPath),
    textSaid_injective (h .schemaPath), textSaid_injective (h .outputFile),
    textSaid_injective (h .pattern), hnumber (h .indentSize), hswitch (h .debugResponses),
    hswitch (h .frontmatter)⟩

theorem valueOf_orElse (bs cs : Bytes) :
    Value.text (Settings.orElse bs cs) = (textSaid bs).getD (.text cs) := by
  unfold Settings.orElse textSaid
  split <;> rfl

/-- Options change the settings that they say something about, and no others. -/
theorem valueOf_apply (o : Options) (s : Settings) (k : Key) :
    valueOf (o.apply s) k = (o.said k).getD (valueOf s k) := by
  cases k with
  | servicesPath | clientPath | schemaPath | outputFile | pattern => exact valueOf_orElse _ _
  | indentSize => cases h : o.indentSize <;> simp [valueOf, apply, said, h]
  | debugResponses => cases h : o.debugResponses <;> simp [valueOf, apply, said, h]
  | frontmatter => cases h : o.frontmatter <;> simp [valueOf, apply, said, h]

/-- The settings agree where no key reaches: the two directories and the text of the frontmatter. -/
structure SameElsewhere (s t : Settings) : Prop where
  schemaDir : s.schemaDir = t.schemaDir
  outDir : s.outDir = t.outDir
  frontmatter : s.frontmatter = t.frontmatter

theorem apply_sameElsewhere (o : Options) (s : Settings) : SameElsewhere (o.apply s) s :=
  ⟨rfl, rfl, rfl⟩

theorem eq_of_valueOf_eq {s t : Settings} (h : ∀ k, valueOf s k = valueOf t k)
    (helsewhere : SameElsewhere s t) : s = t := by
  have hno : s.noFrontmatter = t.noFrontmatter := by
    simpa using Value.switch.inj (h .frontmatter)
  obtain ⟨⟩ := s
  obtain ⟨⟩ := t
  rw [Settings.mk.injEq]
  exact ⟨helsewhere.schemaDir, Value.text.inj (h .pattern), helsewhere.outDir,
    Value.text.inj (h .outputFile), Value.text.inj (h .servicesPath), Value.text.inj (h .clientPath),
    Value.text.inj (h .schemaPath), Value.number.inj (h .indentSize),
    Value.switch.inj (h .debugResponses), helsewhere.frontmatter, hno⟩

/-! ## One pair -/

section

variable {o o' : Options} {k : Key} {v : Bytes}

theorem set?_eq_none_iff (hv : v ≠ []) : o.set? k v = none ↔ read? k v = none := by
  cases k <;> simp [set?, read?, hv]

theorem said_set? (hv : v ≠ []) (h : o.set? k v = some o') (j : Key) :
    o'.said j = if j = k then read? k v else o.said j := by
  cases k with
  | servicesPath | clientPath | schemaPath | outputFile | pattern =>
      cases h
      cases j <;> simp [said, textSaid, read?, hv]
  | indentSize =>
      rw [set?, if_neg hv] at h
      obtain ⟨n, hn, rfl⟩ := Option.map_eq_some_iff.mp h
      cases j <;> simp [said, read?, hn]
  | debugResponses | frontmatter =>
      rw [set?, if_neg hv] at h
      obtain ⟨b, hb, rfl⟩ := Option.map_eq_some_iff.mp h
      cases j <;> simp [said, read?, hb]

/-- A pair with its key in the usual spelling. -/
def spelled (p : Key × Bytes) : Bytes × Bytes := (Bytes.ofString p.1.name, p.2)

theorem key?_name (k : Key) : key? (Bytes.ofString k.name) = some k := by
  cases k <;> decide

theorem name_injective {j k : Key} (h : Bytes.ofString j.name = Bytes.ofString k.name) : j = k := by
  have hkey := congrArg key? h
  rwa [key?_name, key?_name, Option.some.injEq] at hkey

theorem pairFault?_spelled (hv : v ≠ []) :
    pairFault? (spelled (k, v)) = none ↔ (read? k v).isSome = true := by
  simp only [pairFault?, spelled, key?_name]
  cases hset : empty.set? k v with
  | none => simp [(set?_eq_none_iff hv).mp hset]
  | some o =>
      have hread : read? k v ≠ none := fun hnone => by
        rw [← set?_eq_none_iff (o := empty) hv, hset] at hnone
        cases hnone
      simp [Option.isSome_iff_ne_none, hread]

theorem said_addPair (hv : v ≠ []) (hread : (read? k v).isSome = true) (j : Key) :
    (o.addPair (spelled (k, v))).said j = if j = k then read? k v else o.said j := by
  simp only [addPair, spelled, key?_name]
  cases hset : o.set? k v with
  | none =>
      rw [(set?_eq_none_iff hv).mp hset] at hread
      cases hread
  | some o' => exact said_set? hv hset j

end

/-! ## The last value of a key -/

/-- The value of the last pair with a key. -/
def lastValue (k : Key) : List (Key × Bytes) → Option Bytes
  | [] => none
  | p :: ps => (lastValue k ps).or (if p.1 = k then some p.2 else none)

section

variable {k : Key} {v : Bytes} {ps qs : List (Key × Bytes)}

theorem lastValue_append (k : Key) (ps qs : List (Key × Bytes)) :
    lastValue k (ps ++ qs) = (lastValue k qs).or (lastValue k ps) := by
  induction ps with
  | nil => simp [lastValue]
  | cons p ps ih => rw [List.cons_append, lastValue, ih, lastValue, Option.or_assoc]

theorem lastValue_eq_none_iff : lastValue k ps = none ↔ ∀ p ∈ ps, p.1 ≠ k := by
  induction ps with
  | nil => simp [lastValue]
  | cons p ps ih => simp [lastValue, ih, and_comm]

theorem lastValue_of_last (before : List (Key × Bytes)) (v : Bytes) {after : List (Key × Bytes)}
    (hafter : ∀ p ∈ after, p.1 ≠ k) : lastValue k (before ++ (k, v) :: after) = some v := by
  rw [lastValue_append, lastValue, lastValue_eq_none_iff.mpr hafter]
  simp

/-- Pairs with other keys do not count. -/
theorem lastValue_filter (k : Key) (ps : List (Key × Bytes)) :
    lastValue k (ps.filter fun p => p.1 = k) = lastValue k ps := by
  induction ps with
  | nil => rfl
  | cons p ps ih =>
      by_cases hp : p.1 = k
      · rw [List.filter_cons_of_pos (by simpa using hp), lastValue, ih, lastValue]
      · rw [List.filter_cons_of_neg (by simpa using hp), ih, lastValue, if_neg hp, Option.or_none]

theorem mem_of_lastValue (h : lastValue k ps = some v) : (k, v) ∈ ps := by
  induction ps with
  | nil => cases h
  | cons p ps ih =>
      rw [lastValue] at h
      cases hlast : lastValue k ps with
      | some w =>
          rw [hlast, Option.some_or] at h
          exact List.mem_cons_of_mem _ (ih (hlast.trans h))
      | none =>
          rw [hlast, Option.none_or] at h
          split at h
          · rename_i hp
            cases h
            subst hp
            exact List.mem_cons_self
          · cases h

/-- The pairs that are looked at are those with the last value of their key. -/
theorem exists_latest (ps : List (Key × Bytes)) :
    ∃ ls, latest (ps.map spelled) = ls.map spelled ∧
      (∀ p, p ∈ ls ↔ lastValue p.1 ps = some p.2) ∧ ∀ k, lastValue k ls = lastValue k ps := by
  induction ps with
  | nil => exact ⟨[], rfl, by simp [lastValue], fun _ => rfl⟩
  | cons p ps ih =>
      obtain ⟨ls, hls, hmem, hlast⟩ := ih
      have hagain : (ps.map spelled).any (fun q => decide (q.1 = (spelled p).1)) = true ↔
          ∃ q ∈ ps, q.1 = p.1 := by
        simp only [List.any_map, List.any_eq_true, Function.comp, decide_eq_true_eq]
        constructor
        · rintro ⟨q, hq, hname⟩
          exact ⟨q, hq, name_injective hname⟩
        · rintro ⟨q, hq, hkey⟩
          exact ⟨q, hq, by rw [spelled, spelled, hkey]⟩
      rw [List.map_cons, latest]
      by_cases hp : ∃ q ∈ ps, q.1 = p.1
      · -- The key comes again, so this pair changes no last value.
        have hsome : lastValue p.1 ps ≠ none := by
          obtain ⟨q, hq, hkey⟩ := hp
          exact fun hnone => lastValue_eq_none_iff.mp hnone q hq hkey
        have hsame : ∀ k, lastValue k (p :: ps) = lastValue k ps := by
          intro k
          rw [lastValue]
          split
          · rename_i hk
            subst hk
            obtain ⟨w, hw⟩ := Option.ne_none_iff_exists'.mp hsome
            rw [hw, Option.some_or]
          · rw [Option.or_none]
        rw [if_pos (hagain.mpr hp)]
        exact ⟨ls, hls, fun q => by rw [hmem, hsame], fun k => by rw [hlast, hsame]⟩
      · rw [if_neg fun h => hp (hagain.mp h), hls]
        refine ⟨p :: ls, rfl, ?_, fun k => by rw [lastValue, hlast, lastValue]⟩
        intro q
        rw [List.mem_cons, hmem, lastValue]
        by_cases hq : p.1 = q.1
        · have hnone : lastValue q.1 ps = none := by
            rw [lastValue_eq_none_iff, ← hq]
            exact fun r hr hkey => hp ⟨r, hr, hkey⟩
          rw [hnone, if_pos hq, Option.none_or, Option.some.injEq]
          constructor
          · rintro (rfl | h)
            · rfl
            · cases h
          · exact fun hv => .inl (Prod.ext hq.symm hv.symm)
        · rw [if_neg hq, Option.or_none]
          exact or_iff_right fun heq => hq (by rw [heq])

/-- Pairs that all have a fitting value, taken over one after another: the last of each key counts. -/
theorem said_foldl (hps : ∀ p ∈ ps, p.2 ≠ [] ∧ (read? p.1 p.2).isSome = true) (o : Options) (k : Key) :
    ((ps.map spelled).foldl addPair o).said k =
      ((lastValue k ps).bind (read? k)).or (o.said k) := by
  induction ps generalizing o with
  | nil => simp [lastValue]
  | cons p ps ih =>
      rw [List.forall_mem_cons] at hps
      obtain ⟨⟨hne, hread⟩, hrest⟩ := hps
      rw [List.map_cons, List.foldl_cons, ih hrest, said_addPair hne hread, lastValue]
      cases hlast : lastValue k ps with
      | some v =>
          have hv : (read? k v).isSome = true := (hrest (k, v) (mem_of_lastValue hlast)).2
          obtain ⟨x, hx⟩ := Option.isSome_iff_exists.mp hv
          simp [hx]
      | none =>
          by_cases hk : k = p.1
          · subst hk
            obtain ⟨x, hx⟩ := Option.isSome_iff_exists.mp hread
            simp [hx]
          · simp [hk, Ne.symm hk]

end

/-! ## Texts -/

/-- The pieces of a text are blank, or give these pairs: a key in its usual spelling, an equals sign, and
a value that is not empty, with blanks around them or without. -/
inductive Gives : List Bytes → List (Key × Bytes) → Prop where
  | nil : Gives [] []
  | blank {piece : Bytes} {pieces : List Bytes} {ps : List (Key × Bytes)} (hblank : trim piece = [])
      (rest : Gives pieces ps) : Gives (piece :: pieces) ps
  | pair {piece key value v : Bytes} {pieces : List Bytes} {k : Key} {ps : List (Key × Bytes)}
      (hcut : Bytes.cut 0x3D (trim piece) = some (key, value))
      (hkey : trim key = Bytes.ofString k.name) (hvalue : trim value = v) (hne : v ≠ [])
      (rest : Gives pieces ps) : Gives (piece :: pieces) ((k, v) :: ps)

section

variable {pieces pieces' : List Bytes} {ps qs : List (Key × Bytes)} {text : Bytes} {o : Options}

theorem Gives.append (h : Gives pieces ps) (h' : Gives pieces' qs) :
    Gives (pieces ++ pieces') (ps ++ qs) := by
  induction h with
  | nil => exact h'
  | blank hblank _ ih => exact .blank hblank ih
  | pair hcut hkey hvalue hne _ ih => exact .pair hcut hkey hvalue hne ih

theorem Gives.value_ne_nil (h : Gives pieces ps) : ∀ p ∈ ps, p.2 ≠ [] := by
  induction h with
  | nil => simp
  | blank _ _ ih => exact ih
  | pair _ _ _ hne _ ih => exact List.forall_mem_cons.mpr ⟨hne, ih⟩

theorem Gives.pairs_eq (h : Gives pieces ps) : pairs pieces = .ok (ps.map spelled) := by
  induction h with
  | nil => rfl
  | blank hblank _ ih => simp only [pairs, hblank, if_true, ih]
  | @pair piece _ _ _ _ _ _ hcut hkey hvalue _ _ ih =>
      have hpiece : trim piece ≠ [] := by
        intro hnil
        rw [hnil] at hcut
        cases hcut
      simp only [pairs, if_neg hpiece, hcut, ih, hkey, hvalue]
      rfl

/-- The text gives these pairs. -/
def GivesPairs (text : Bytes) (ps : List (Key × Bytes)) : Prop := Gives (Bytes.split 0x2C text) ps

/-- A text with two texts in it, a comma between them, gives the pairs of both. -/
theorem GivesPairs.join {s t : Bytes} (hs : GivesPairs s ps) (ht : GivesPairs t qs) :
    GivesPairs (s ++ 0x2C :: t) (ps ++ qs) := by
  rw [GivesPairs, Bytes.split_append_cons]
  exact hs.append ht

/-- The last value of every key fits. -/
def Fit (ps : List (Key × Bytes)) : Prop :=
  ∀ k v, lastValue k ps = some v → (read? k v).isSome = true

/-- A text is accepted if the last value of every key fits, and its options then say for each key what
this value is read as; otherwise it is refused. -/
theorem GivesPairs.parse_cases (h : GivesPairs text ps) :
    (Fit ps ∧ ∃ o, parse text = .ok o ∧ ∀ k, o.said k = (lastValue k ps).bind (read? k)) ∨
      ¬ Fit ps ∧ ∃ fs, parse text = .error (.faults fs) := by
  obtain ⟨ls, hls, hmem, hlast⟩ := exists_latest ps
  have hvalue : ∀ p ∈ ls, p.2 ≠ [] := by
    rintro ⟨k, v⟩ hp
    exact h.value_ne_nil _ (mem_of_lastValue ((hmem _).mp hp))
  have hfit : Fit ps ↔ ∀ p ∈ ls, (read? p.1 p.2).isSome = true := by
    constructor
    · exact fun hfit p hp => hfit p.1 p.2 ((hmem p).mp hp)
    · exact fun hall k v hv => hall (k, v) ((hmem (k, v)).mpr hv)
  have hfaults : Bytes.sortOn Fault.key ((ls.map spelled).filterMap pairFault?) = [] ↔ Fit ps := by
    rw [Bytes.sortOn_eq_nil_iff, List.filterMap_eq_nil_iff, hfit, List.forall_mem_map]
    refine forall₂_congr ?_
    rintro ⟨k, v⟩ hp
    exact pairFault?_spelled (hvalue _ hp)
  rw [parse, h.pairs_eq]
  simp only [hls]
  split
  · rename_i hnil
    have hok := hfaults.mp hnil
    refine .inl ⟨hok, _, rfl, ?_⟩
    intro k
    have hempty : empty.said k = none := by cases k <;> rfl
    rw [said_foldl fun p hp => ⟨hvalue p hp, hfit.mp hok p hp⟩, hlast, hempty, Option.or_none]
  · rename_i hne
    exact .inr ⟨fun hok => hne (hfaults.mpr hok), _, rfl⟩

theorem GivesPairs.exists_parse (h : GivesPairs text ps) (hfit : Fit ps) :
    ∃ o, parse text = .ok o := by
  rcases h.parse_cases with ⟨-, o, ho, -⟩ | ⟨hunfit, -⟩
  · exact ⟨o, ho⟩
  · exact absurd hfit hunfit

theorem GivesPairs.parse_eq_ok_iff (h : GivesPairs text ps) :
    parse text = .ok o ↔ Fit ps ∧ ∀ k, o.said k = (lastValue k ps).bind (read? k) := by
  rcases h.parse_cases with ⟨hfit, o', ho', hsaid⟩ | ⟨hfit, fs, hfs⟩
  · rw [ho', Except.ok.injEq]
    constructor
    · rintro rfl
      exact ⟨hfit, hsaid⟩
    · rintro ⟨-, ho⟩
      exact eq_of_said_eq fun k => (hsaid k).trans (ho k).symm
  · simp [hfs, hfit]

/-- What an accepted text does to the setting of a key. -/
theorem GivesPairs.valueOf_apply_eq (h : GivesPairs text ps) (ho : parse text = .ok o) (s : Settings)
    (k : Key) :
    valueOf (o.apply s) k = ((lastValue k ps).bind (read? k)).getD (valueOf s k) := by
  rw [valueOf_apply, (h.parse_eq_ok_iff.mp ho).2]

end

/-! ## Two texts -/

theorem Fit.append {ps qs : List (Key × Bytes)} (hps : Fit ps) (hqs : Fit qs) : Fit (ps ++ qs) := by
  intro k v h
  rw [lastValue_append, Option.or_eq_some_iff] at h
  exact h.elim (hqs k v) fun hfirst => hps k v hfirst.2

/-- What two texts say about a key: the second one counts where it says something. -/
theorem bind_lastValue_append {ps qs : List (Key × Bytes)} (hqs : Fit qs) (k : Key) :
    (lastValue k (ps ++ qs)).bind (read? k) =
      ((lastValue k qs).bind (read? k)).or ((lastValue k ps).bind (read? k)) := by
  rw [lastValue_append]
  cases hlast : lastValue k qs with
  | none => simp
  | some v =>
      obtain ⟨x, hx⟩ := Option.isSome_iff_exists.mp (hqs k v hlast)
      simp [hx]

section

variable {s t : Bytes} {ps qs : List (Key × Bytes)} {o p : Options}

/-- Two accepted texts with a comma between them are accepted, and do what they do in turn. -/
theorem GivesPairs.exists_parse_join (hs : GivesPairs s ps) (ht : GivesPairs t qs)
    (ho : parse s = .ok o) (hp : parse t = .ok p) :
    ∃ q, parse (s ++ "," ++ t) = .ok q ∧ ∀ settings, q.apply settings = p.apply (o.apply settings) := by
  have hjoin : GivesPairs (s ++ Bytes.ofString "," ++ t) (ps ++ qs) := by
    rw [List.append_assoc]
    exact hs.join ht
  have hps := hs.parse_eq_ok_iff.mp ho
  have hqs := ht.parse_eq_ok_iff.mp hp
  obtain ⟨q, hq⟩ := hjoin.exists_parse (hps.1.append hqs.1)
  refine ⟨q, hq, ?_⟩
  intro settings
  refine eq_of_valueOf_eq ?_ ⟨rfl, rfl, rfl⟩
  intro k
  rw [hjoin.valueOf_apply_eq hq, valueOf_apply, valueOf_apply, bind_lastValue_append hqs.1, ← hqs.2,
    ← hps.2]
  cases p.said k <;> rfl

/-- Only the order of pairs with one key counts. -/
theorem GivesPairs.parse_eq_ok_congr (hs : GivesPairs s ps) (ht : GivesPairs t qs)
    (hsame : ∀ k, (ps.filter fun q => q.1 = k) = qs.filter fun q => q.1 = k) :
    parse s = .ok o ↔ parse t = .ok o := by
  have hlast : ∀ k, lastValue k ps = lastValue k qs := by
    intro k
    rw [← lastValue_filter, hsame, lastValue_filter]
  rw [hs.parse_eq_ok_iff, ht.parse_eq_ok_iff]
  simp only [Fit, hlast]

end

/-- Texts of pairs with keys in their usual spelling and values that are not empty.  Two of them that are
accepted can be joined by a comma: the joined text is accepted and does to all settings, and to a job,
what the two do in turn.  Texts that differ in the order of pairs with different keys are read the same.
An accepted text gives each setting the value of the last pair with its key, and leaves those alone whose
key does not occur, as well as what has no key. -/
theorem joined_options_apply_in_turn {s t : Bytes} {ps qs : List (Key × Bytes)} (hs : GivesPairs s ps)
    (ht : GivesPairs t qs) :
    (∀ o p, parse s = .ok o → parse t = .ok p →
      (∃ q, parse (s ++ "," ++ t) = .ok q ∧
        ∀ settings, q.apply settings = p.apply (o.apply settings)) ∧
      ∀ job : Job, job.addOptions (s ++ "," ++ t) = (job.addOptions s).addOptions t) ∧
    ((∀ k, (ps.filter fun q => q.1 = k) = qs.filter fun q => q.1 = k) →
      ∀ o, parse s = .ok o ↔ parse t = .ok o) ∧
    ∀ o, parse s = .ok o → ∀ settings,
      (∀ before k v after, ps = before ++ (k, v) :: after → (∀ q ∈ after, q.1 ≠ k) →
        read? k v = some (valueOf (o.apply settings) k)) ∧
      (∀ k, (∀ q ∈ ps, q.1 ≠ k) → valueOf (o.apply settings) k = valueOf settings k) ∧
      SameElsewhere (o.apply settings) settings := by
  refine ⟨?_, fun hsame o => hs.parse_eq_ok_congr ht hsame, ?_⟩
  · intro o p ho hp
    obtain ⟨q, hq, happly⟩ := hs.exists_parse_join ht ho hp
    refine ⟨⟨q, hq, happly⟩, ?_⟩
    intro job
    simp only [Job.addOptions, ho, hp, hq, happly]
  · intro o ho settings
    have hvalue := hs.valueOf_apply_eq ho settings
    refine ⟨?_, ?_, o.apply_sameElsewhere settings⟩
    · rintro before k v after rfl hafter
      have hlast := lastValue_of_last before v hafter
      obtain ⟨x, hx⟩ := Option.isSome_iff_exists.mp ((hs.parse_eq_ok_iff.mp ho).1 k v hlast)
      rw [hvalue, hlast, Option.bind_some, hx]
      rfl
    · intro k hk
      rw [hvalue, lastValue_eq_none_iff.mpr hk]
      rfl

/-- Both texts set the indentation, and the second one has blanks and an empty piece in it. -/
theorem joined_options_indent_twice :
    GivesPairs "indent_size=2,pattern=*.json" [(.indentSize, "2"), (.pattern, "*.json")] ∧
      GivesPairs " indent_size = 8,,frontmatter=false" [(.indentSize, "8"), (.frontmatter, "false")] ∧
      ∃ o p q, parse "indent_size=2,pattern=*.json" = .ok o ∧
        parse " indent_size = 8,,frontmatter=false" = .ok p ∧
        parse "indent_size=2,pattern=*.json, indent_size = 8,,frontmatter=false" = .ok q ∧
        ∀ settings, q.apply settings = p.apply (o.apply settings) := by
  have hs : GivesPairs "indent_size=2,pattern=*.json" [(.indentSize, "2"), (.pattern, "*.json")] :=
    .pair rfl rfl rfl (by decide) (.pair rfl rfl rfl (by decide) .nil)
  have ht : GivesPairs " indent_size = 8,,frontmatter=false"
      [(.indentSize, "8"), (.frontmatter, "false")] :=
    .pair rfl rfl rfl (by decide) (.blank rfl (.pair rfl rfl rfl (by decide) .nil))
  obtain ⟨o, ho⟩ := hs.exists_parse (by intro k v h; cases k <;> cases h <;> rfl)
  obtain ⟨p, hp⟩ := ht.exists_parse (by intro k v h; cases k <;> cases h <;> rfl)
  obtain ⟨⟨q, hq, happly⟩, -⟩ := (joined_options_apply_in_turn hs ht).1 o p ho hp
  exact ⟨hs, ht, o, p, q, ho, hp, hq, happly⟩

end RpcBindings.Options
