import Mathlib.Data.List.Basic
import Mathlib.Data.List.Induction
import RpcBindings.Proofs.Association
import RpcBindings.Proofs.Text.Bytes
import RpcBindings.Sink.Memory

/-!
# What a memory holds after many calls (SPEC §2)

A memory is written to, cleared and read, in any order and as often as wanted.  It then holds, for each
path, what was last written there since it was cleared, and nothing else; a write that fails leaves no
trace.  Its paths come in increasing order, each once, and all of them are output paths.
-/

set_option autoImplicit false

namespace RpcBindings.Memory

/-! ## Memories -/

/-- What holds of a memory at any time: each path is there once, and all of them are output paths. -/
structure Sound (m : Memory) : Prop where
  nodup : (m.entries.map Prod.fst).Nodup
  valid : ∀ path ∈ m.paths, Path.outputFault? path = none

theorem mem_paths_iff_entry {m : Memory} {path : Bytes} :
    path ∈ m.paths ↔ path ∈ m.entries.map Prod.fst :=
  Bytes.mem_sort_iff

theorem sound_empty : empty.Sound := ⟨List.nodup_nil, by simp [mem_paths_iff_entry, empty]⟩

theorem Sound.put {m : Memory} (h : m.Sound) {path : Bytes} (hpath : Path.outputFault? path = none)
    (content : Bytes) : (m.put path content).Sound := by
  have hrest : path ∉ (m.entries.filter fun e => e.1 ≠ path).map Prod.fst :=
    Association.lookup_eq_none_iff_not_mem.mp (Association.lookup_filter_self m.entries path)
  refine ⟨List.nodup_cons.mpr ⟨hrest, Association.nodup_filter h.nodup path⟩, ?_⟩
  intro p hp
  obtain rfl | hp := List.mem_cons.mp (mem_paths_iff_entry.mp hp)
  · exact hpath
  · exact h.valid p (mem_paths_iff_entry.mpr ((List.filter_sublist.map _).subset hp))

theorem get?_put (m : Memory) (path content other : Bytes) :
    (m.put path content).get? other = if other = path then some content else m.get? other := by
  rw [get?, put, Association.lookup_cons_eq]
  by_cases h : other = path
  · simp [h]
  · simp only [h, beq_false_of_ne h, Bool.false_eq_true, if_false]
    exact Association.lookup_filter_of_ne h

theorem Sound.mem_files_iff {m : Memory} (h : m.Sound) {path content : Bytes} :
    (path, content) ∈ m.files ↔ m.get? path = some content := by
  rw [files, (Bytes.sortOn_sorts _ _).mem_iff, get?, Association.mem_iff_lookup_eq_some h.nodup]

theorem files_map_fst (m : Memory) : m.files.map Prod.fst = m.paths :=
  (Bytes.sortOn_map Prod.fst id m.entries).symm

theorem Sound.mem_paths_iff {m : Memory} (h : m.Sound) {path : Bytes} :
    path ∈ m.paths ↔ ∃ content, m.get? path = some content := by
  simp [← m.files_map_fst, ← h.mem_files_iff]

theorem Sound.pairwise_paths {m : Memory} (h : m.Sound) : m.paths.Pairwise (· < ·) :=
  Bytes.sort_increasing h.nodup

/-! ## Calls -/

/-- A call on a memory.  Each write comes with the allowance of its caller. -/
inductive Call where
  | write (allowance : Allowance) (path content : Bytes)
  | reset
  | get (path : Bytes)
  | paths
  | files
  deriving DecidableEq, Repr, Inhabited

/-- The memory after a call. -/
def take (m : Memory) : Call → Memory
  | .write allowance path content => (sink.write m allowance path content).state
  | .reset => empty
  | .get _ => m
  | .paths => m
  | .files => m

/-- The memory after calls, the first of which finds it empty. -/
def after (calls : List Call) : Memory := calls.foldl take empty

/-- A write to the path is let through: the path is an output path, and the run may go on. -/
def Admits (allowance : Allowance) (path : Bytes) : Prop :=
  Path.outputFault? path = none ∧ ∃ left, allowance.check = .ok left

/-- The call writes the content to the path, and does not fail. -/
def Call.Writes (call : Call) (path content : Bytes) : Prop :=
  ∃ allowance, call = .write allowance path content ∧ Admits allowance path

/-- One of the calls writes the content to the path, and after it the memory is neither cleared nor
written to at the path. -/
def LastWritten (calls : List Call) (path content : Bytes) : Prop :=
  ∃ before call after, calls = before ++ call :: after ∧ call.Writes path content ∧
    ∀ later ∈ after, later ≠ .reset ∧ ∀ other, ¬ later.Writes path other

/-! ## What one call does -/

section

variable {m : Memory} {allowance : Allowance} {path content : Bytes}

theorem enter_eq_ok_iff : (∃ left, Sink.enter allowance path = .ok left) ↔ Admits allowance path := by
  unfold Sink.enter Admits
  cases Path.outputFault? path with
  | some fault => simp
  | none => cases allowance.check <;> simp

/-- A write that is let through puts the content in; any other fails and changes nothing. -/
theorem write_cases (m : Memory) (allowance : Allowance) (path content : Bytes) :
    (Admits allowance path ∧ (sink.write m allowance path content).outcome = .ok () ∧
      (sink.write m allowance path content).state = m.put path content) ∨
    (¬ Admits allowance path ∧ (∃ f, (sink.write m allowance path content).outcome = .error f) ∧
      (sink.write m allowance path content).state = m) := by
  rw [← enter_eq_ok_iff]
  simp only [sink]
  cases Sink.enter allowance path with
  | error f => exact .inr ⟨by simp, ⟨f, rfl⟩, rfl⟩
  | ok left => exact .inl ⟨⟨left, rfl⟩, rfl, rfl⟩

theorem outcome_write_iff :
    (sink.write m allowance path content).outcome = .ok () ↔ Admits allowance path := by
  obtain ⟨hadmits, hok, -⟩ | ⟨hadmits, ⟨f, herror⟩, -⟩ := write_cases m allowance path content
  · simp [hadmits, hok]
  · simp [hadmits, herror]

theorem take_of_error {f : Failure}
    (h : (sink.write m allowance path content).outcome = .error f) :
    m.take (.write allowance path content) = m := by
  obtain ⟨-, hok, -⟩ | ⟨-, -, hstate⟩ := write_cases m allowance path content
  · rw [hok] at h
    cases h
  · exact hstate

theorem Call.writes_write_iff {p c : Bytes} :
    (Call.write allowance p c).Writes path content ↔
      p = path ∧ c = content ∧ Admits allowance path := by
  constructor
  · rintro ⟨_, hcall, hadmits⟩
    cases hcall
    exact ⟨rfl, rfl, hadmits⟩
  · rintro ⟨rfl, rfl, hadmits⟩
    exact ⟨allowance, rfl, hadmits⟩

/-- After a call a content is at a path if the call wrote it there, or if it was there and the call
neither cleared the memory nor wrote something there. -/
theorem get?_take_iff (m : Memory) (call : Call) :
    (m.take call).get? path = some content ↔
      call.Writes path content ∨
        m.get? path = some content ∧ call ≠ .reset ∧ ∀ other, ¬ call.Writes path other := by
  cases call with
  | write allowance p c =>
      simp only [Call.writes_write_iff, take]
      obtain ⟨hadmits, -, hstate⟩ | ⟨hadmits, -, hstate⟩ := write_cases m allowance p c
      · rw [hstate, get?_put]
        by_cases hpath : path = p
        · subst hpath
          simp [hadmits]
        · simp [hpath, Ne.symm hpath]
      · rw [hstate]
        by_cases hpath : path = p
        · subst hpath
          simp [hadmits]
        · simp [Ne.symm hpath]
  | reset => simp [take, Call.Writes, get?, empty]
  | get p => simp [take, Call.Writes]
  | paths => simp [take, Call.Writes]
  | files => simp [take, Call.Writes]

theorem Sound.take (h : m.Sound) (call : Call) : (m.take call).Sound := by
  cases call with
  | write allowance p c =>
      rw [Memory.take]
      obtain ⟨hadmits, -, hstate⟩ | ⟨-, -, hstate⟩ := write_cases m allowance p c
      · rw [hstate]
        exact h.put hadmits.1 c
      · rw [hstate]
        exact h
  | reset => exact sound_empty
  | get p => exact h
  | paths => exact h
  | files => exact h

end

/-! ## What calls do one after another -/

theorem after_concat (calls : List Call) (call : Call) :
    after (calls ++ [call]) = (after calls).take call := by
  simp [after]

theorem sound_after (calls : List Call) : (after calls).Sound := by
  induction calls using List.reverseRecOn with
  | nil => exact sound_empty
  | append_singleton calls call ih =>
      rw [after_concat]
      exact ih.take call

/-- What one more call does to the last writes is what it does to a memory. -/
theorem lastWritten_concat_iff {calls : List Call} {call : Call} {path content : Bytes} :
    LastWritten (calls ++ [call]) path content ↔
      call.Writes path content ∨
        LastWritten calls path content ∧ call ≠ .reset ∧ ∀ other, ¬ call.Writes path other := by
  constructor
  · rintro ⟨before, written, rest, hcalls, hwrites, hlater⟩
    obtain rfl | ⟨rest, last, rfl⟩ := List.eq_nil_or_concat' rest
    · obtain ⟨-, rfl⟩ := List.append_singleton_inj.mp hcalls
      exact .inl hwrites
    · rw [← List.cons_append, ← List.append_assoc] at hcalls
      obtain ⟨rfl, rfl⟩ := List.append_singleton_inj.mp hcalls
      rw [List.forall_mem_append, List.forall_mem_singleton] at hlater
      exact .inr ⟨⟨before, written, rest, rfl, hwrites, hlater.1⟩, hlater.2⟩
  · rintro (hwrites | ⟨⟨before, written, rest, rfl, hwrites, hlater⟩, hcall⟩)
    · exact ⟨calls, call, [], rfl, hwrites, by simp⟩
    · refine ⟨before, written, rest ++ [call], by simp, hwrites, ?_⟩
      exact List.forall_mem_append.mpr ⟨hlater, List.forall_mem_singleton.mpr hcall⟩

theorem get?_after_iff (calls : List Call) {path content : Bytes} :
    (after calls).get? path = some content ↔ LastWritten calls path content := by
  induction calls using List.reverseRecOn with
  | nil => simp [after, empty, get?, LastWritten]
  | append_singleton calls call ih => rw [after_concat, get?_take_iff, lastWritten_concat_iff, ih]

/-- After any calls, a memory gives for each path the content that was last written there since it was
cleared, and nothing if there is none.  Its paths are strictly increasing, are those with a content, and
go with the contents as its files say.  All of them are output paths.  A write is let through exactly if
its path is an output path and its caller may go on; if it is not, nothing changes. -/
theorem memory_holds_last_writes (calls : List Call) :
    let m := after calls
    (∀ path content, m.get? path = some content ↔ LastWritten calls path content) ∧
    m.paths.Pairwise (· < ·) ∧
    (∀ path, path ∈ m.paths ↔ ∃ content, m.get? path = some content) ∧
    (m.files.map Prod.fst = m.paths ∧
      ∀ path content, (path, content) ∈ m.files ↔ m.get? path = some content) ∧
    (∀ path ∈ m.paths, Path.outputFault? path = none) ∧
    ∀ allowance path content,
      let attempt := sink.write m allowance path content
      (attempt.outcome = .ok () ↔
        Path.outputFault? path = none ∧ ∃ left, allowance.check = .ok left) ∧
      ∀ f, attempt.outcome = .error f → attempt.state = m := by
  intro m
  have hsound : m.Sound := sound_after calls
  refine ⟨fun _ _ => get?_after_iff calls, hsound.pairwise_paths, fun _ => hsound.mem_paths_iff,
    ⟨m.files_map_fst, fun _ _ => hsound.mem_files_iff⟩, hsound.valid, ?_⟩
  intro allowance path content attempt
  exact ⟨outcome_write_iff, fun f hf => take_of_error hf⟩

/-- A content from before the clearing, one that is overwritten, an empty one, and two writes that
fail. -/
theorem memory_holds_last_writes_mixed :
    let calls : List Call :=
      [.write .unlimited "c.rs" "0", .reset, .write .unlimited "b.rs" "1", .paths,
        .write .unlimited "b.rs" "2", .write .unlimited "a.rs" [], .write .unlimited "../x.rs" "3",
        .write (.over .canceled) "b.rs" "4"]
    (after calls).paths = [Bytes.ofString "a.rs", Bytes.ofString "b.rs"] ∧
      LastWritten calls "b.rs" "2" ∧ LastWritten calls "a.rs" [] ∧ (∀ content, ¬ LastWritten calls "c.rs" content) ∧
      ∃ f, (sink.write (after calls) .unlimited "../x.rs" "5").outcome = .error f ∧
        (sink.write (after calls) .unlimited "../x.rs" "5").state = after calls := by
  intro calls
  obtain ⟨hget, -, -, -, -, hwrite⟩ := memory_holds_last_writes calls
  refine ⟨?_, (hget _ _).mp (by decide), (hget _ _).mp (by decide), ?_, ?_⟩
  · exact List.mergeSort_of_pairwise (by decide)
  · intro content hlast
    have hfound := (hget _ _).mpr hlast
    have hmissing : (after calls).get? "c.rs" = none := by decide
    rw [hmissing] at hfound
    cases hfound
  · exact ⟨_, rfl, (hwrite _ _ _).2 _ rfl⟩

end RpcBindings.Memory
