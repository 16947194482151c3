import RpcBindings.Proofs.Generation.Stops
import RpcBindings.Proofs.Glob.Reach

/-!
# Faults of a pattern in a run (SPEC §4.4, §8)

Valid settings have a pattern whose first chunk can be read, for that is what the empty name shows.  A
fault further on is met in the middle of a run, by the first entry of the directory that gets to it.  So
a run with valid settings can still fail because of its pattern, but never with a pattern none of whose
faults can be reached.
-/

set_option autoImplicit false

namespace RpcBindings.Generation

open RpcBindings.File (Disk Node)

variable {d : Disk} {dir pattern name : Bytes} {node : Node}

/-- The failure of a run that met a fault in its pattern. -/
def patternFailure (pattern : Bytes) : Failure :=
  Failure.classify Code.config [] (.glob .badPattern) ("invalid pattern " ++ quote pattern)

/-! ## The run -/

/-- The directory can be listed; one of its entries is not a directory and has a name with which the
pattern gives no answer; and no entry before it makes the run fail. -/
def MeetsFault (d : Disk) (dir pattern : Bytes) : Prop :=
  ∃ before name node after, d.list dir = .ok (before ++ (name, node) :: after) ∧
    (∀ b ∈ before, ∃ file?, schemaFile? d dir pattern b.1 b.2 = .ok file?) ∧
    node ≠ .folder ∧ Glob.matches? pattern name = .error .badPattern

/-- The stop of a run that met a fault in its pattern. -/
def patternStop (pattern : Bytes) : Stop :=
  ⟨.matching, [], .glob .badPattern, "invalid pattern " ++ quote pattern⟩

theorem meetsFault_iff : MeetsFault d dir pattern ↔ ListStops d dir pattern (patternStop pattern) := by
  unfold MeetsFault
  simp only [exists_schemaFile?_eq_ok_iff]
  constructor
  · rintro ⟨before, name, node, after, hlisted, hpassed, hnode, hfault⟩
    exact .entry hlisted hpassed (.pattern hnode hfault)
  · rintro (_ | ⟨hlisted, hpassed, ⟨hnode, hfault⟩ | _⟩)
    exact ⟨_, _, _, _, hlisted, hpassed, hnode, hfault⟩

/-- Only two stages are coded as faults of the settings. -/
theorem stage_of_failure_eq {stop : Stop} (h : stop.failure = patternFailure pattern) :
    stop.stage = .validation ∨ stop.stage = .matching := by
  have hcode : (if stop.cause.interrupt?.isSome then Code.canceled else stop.stage.code) =
      Code.config :=
    Option.some.inj (congrArg Failure.code? h)
  split at hcode
  · exact absurd hcode (by decide)
  · cases hstage : stop.stage with
    | validation => exact .inl rfl
    | matching => exact .inr rfl
    | reading | parsing | delivery =>
        rw [hstage] at hcode
        exact absurd hcode (by decide)

/-- While it loads the schema, a run stops in one of them only at a fault of the pattern. -/
theorem listStops_of_loadStops {allowance : Allowance} {stop : Stop}
    (h : LoadStops d allowance dir pattern stop)
    (hstage : stop.stage = .validation ∨ stop.stage = .matching) :
    ListStops d dir pattern (patternStop pattern) := by
  cases h with
  | file _ _ _ hfile => cases hfile <;> simp at hstage
  | list hlist =>
      cases hlist with
      | list _ => simp at hstage
      | entry hlisted hpassed hentry =>
          cases hentry with
          | stat _ _ _ => simp at hstage
          | @pattern fault hnode hfault =>
              cases fault
              exact .entry hlisted hpassed (.pattern hnode hfault)

theorem runTo_eq_patternFailure_iff {settings : Settings} (hvalid : validate settings = .ok ())
    {σ : Type} (sink : Option (Sink σ)) (state : σ) (allowance : Allowance) :
    (runTo d sink state allowance settings).outcome = .error (patternFailure settings.pattern) ↔
      MeetsFault d settings.schemaDir settings.pattern := by
  rw [validate_eq_ok_iff] at hvalid
  rw [outcome_runTo_eq_error_iff, meetsFault_iff]
  constructor
  · rintro ⟨stop, hstop, hfailure⟩
    have hstage := stage_of_failure_eq hfailure.symm
    cases hstop with
    | settings hfaults => exact absurd hvalid hfaults
    | load _ hload => exact listStops_of_loadStops hload hstage
    | deliver _ _ hdelivery => cases hdelivery <;> simp at hstage
  · intro h
    exact ⟨_, .load hvalid (.list h), rfl⟩

/-- What the check of a pattern shows, and what it leaves open.  A pattern is accepted exactly if its
first chunk can be read.  It gives an answer for every name exactly if none of its faults can be reached.
With valid settings a run fails because of the pattern exactly if an entry of the directory meets a
fault, and so never when no fault can be reached. -/
theorem pattern_failure_iff (pattern : Bytes) :
    (Settings.isGlob pattern = true ↔
      ∀ chunk ∈ (Glob.chunks pattern).head?, (Glob.tokens? chunk.text).isSome = true) ∧
    ((∀ name, ∃ answer, Glob.matches? pattern name = .ok answer) ↔
      ¬ Glob.Reaches (Glob.chunks pattern)) ∧
    ∀ settings : Settings, settings.pattern = pattern → validate settings = .ok () →
      ∀ {σ : Type} (d : Disk) (sink : Option (Sink σ)) (state : σ) (allowance : Allowance),
        ((runTo d sink state allowance settings).outcome = .error (patternFailure pattern) ↔
          MeetsFault d settings.schemaDir pattern) ∧
        (¬ Glob.Reaches (Glob.chunks pattern) →
          (runTo d sink state allowance settings).outcome ≠ .error (patternFailure pattern)) := by
  refine ⟨Glob.isGlob_iff pattern, Glob.forall_matches?_ok_iff pattern, ?_⟩
  rintro settings rfl hvalid σ d sink state allowance
  have hrun := runTo_eq_patternFailure_iff (d := d) hvalid sink state allowance
  refine ⟨hrun, ?_⟩
  intro hreach hfails
  obtain ⟨before, name, node, after, -, -, -, hfault⟩ := hrun.mp hfails
  obtain ⟨answer, hanswer⟩ := (Glob.forall_matches?_ok_iff _).mpr hreach name
  rw [hanswer] at hfault
  cases hfault

/-- Both chunks of this pattern can be read, so no directory makes a run fail because of it. -/
theorem pattern_failure_iff_two_chunks :
    Settings.isGlob "[ab]*.json" = true ∧ validate (settingsWith "[ab]*.json") = .ok () ∧
      ¬ Glob.Reaches (Glob.chunks "[ab]*.json") ∧
      (runTo oneFile (some Memory.sink) Memory.empty .unlimited (settingsWith "[ab]*.json")).outcome ≠
        .error (patternFailure "[ab]*.json") := by
  have hchunks : Glob.chunks (Bytes.ofString "[ab]*.json") = [⟨false, "[ab]"⟩, ⟨true, ".json"⟩] := by
    decide
  have hset : Glob.tokens? (Bytes.ofString "[ab]") ≠ none := by decide +kernel
  have hjson : Glob.tokens? (Bytes.ofString ".json") ≠ none := by decide +kernel
  have hglob : Settings.isGlob (Bytes.ofString "[ab]*.json") = true := by decide +kernel
  have hreach : ¬ Glob.Reaches (Glob.chunks (Bytes.ofString "[ab]*.json")) := by
    simp [hchunks, Glob.reaches_cons_iff, Glob.not_reaches_nil, hset, hjson]
  have hvalid := validate_settingsWith hglob
  refine ⟨hglob, hvalid, hreach, ?_⟩
  exact ((pattern_failure_iff "[ab]*.json").2.2 _ rfl hvalid _ _ _ _).2 hreach

/-- A pattern with a set that is not closed is accepted, because a chunk comes before it; and a run with
it fails as soon as there is a file whose name gets past this chunk. -/
theorem accepted_pattern_fails :
    Settings.isGlob "[a]*[b" = true ∧ validate (settingsWith "[a]*[b") = .ok () ∧
      Glob.matches? "[a]*[b" "a" = .error .badPattern ∧
      (runTo oneFile (some Memory.sink) Memory.empty .unlimited (settingsWith "[a]*[b")).outcome =
        .error (patternFailure "[a]*[b") := by
  have hglob : Settings.isGlob (Bytes.ofString "[a]*[b") = true := by decide +kernel
  have hfault : Glob.matches? (Bytes.ofString "[a]*[b") (Bytes.ofString "a") = .error .badPattern := by
    decide +kernel
  have hvalid := validate_settingsWith hglob
  refine ⟨hglob, hvalid, hfault, (runTo_eq_patternFailure_iff hvalid _ _ _).mpr ?_⟩
  exact ⟨[], "a", _, [], list_oneFile, by simp, by simp, hfault⟩

end RpcBindings.Generation
