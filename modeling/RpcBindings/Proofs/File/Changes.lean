import Mathlib.Data.List.Nodup
import Mathlib.Data.List.Perm.Subperm
import RpcBindings.File.Disk
import RpcBindings.Proofs.File.Walk
import RpcBindings.Proofs.Text.Numeral

/-!
# How calls change a disk

Making directories only adds directories.  A temporary file stands where nothing stood, under a name
that the file is not to have in the end, and there it stays while it is written and given its
permissions.  Once it is brought to its place and taken away under the temporary name, or taken away
without having been brought there, the disk has changed at that place alone, or not at all.
-/

set_option autoImplicit false

namespace RpcBindings.File.Disk

open RpcBindings.Path (IsName EndsIn)

/-! ## Changes -/

/-- The second disk has what the first one has, and more directories perhaps. -/
structure Grows (d d' : Disk) : Prop where
  cwd : d'.cwd = d.cwd
  device : d'.device = d.device
  nodes : ∀ loc, d'.tree.node? loc = d.tree.node? loc ∨
    (d.tree.node? loc = none ∧ d'.tree.node? loc = some .folder)

/-- The second disk has a node at a place, and is the first one elsewhere. -/
structure Writes (d : Disk) (place : Location) (node : Node) (d' : Disk) : Prop where
  cwd : d'.cwd = d.cwd
  device : d'.device = d.device
  written : d'.tree.node? place = some node
  same : ∀ loc, loc ≠ place → d'.tree.node? loc = d.tree.node? loc

theorem Grows.of_same {d d' : Disk} (hcwd : d'.cwd = d.cwd) (hdevice : d'.device = d.device)
    (hnodes : ∀ loc, d'.tree.node? loc = d.tree.node? loc) : Grows d d' :=
  ⟨hcwd, hdevice, fun loc => .inl (hnodes loc)⟩

theorem Grows.refl (d : Disk) : Grows d d := .of_same rfl rfl fun _ => rfl

theorem Grows.trans {d d' d'' : Disk} (h : Grows d d') (h' : Grows d' d'') : Grows d d'' := by
  refine ⟨h'.cwd.trans h.cwd, h'.device.trans h.device, ?_⟩
  intro loc
  rcases h.nodes loc with hsame | ⟨hnone, hnew⟩ <;> rcases h'.nodes loc with hsame' | ⟨hnone', hnew'⟩
  · exact .inl (hsame'.trans hsame)
  · exact .inr ⟨hsame.symm.trans hnone', hnew'⟩
  · exact .inr ⟨hnone, hsame'.trans hnew⟩
  · exact .inr ⟨hnone, hnew'⟩

theorem Grows.extends {d d' : Disk} (h : Grows d d') : d.tree.Extends d'.tree := by
  intro loc node hnode
  rcases h.nodes loc with hsame | ⟨hnone, _⟩
  · rw [hsame, hnode]
  · rw [hnone] at hnode
    cases hnode

section

variable {d d' : Disk} {place : Location} {node : Node}

theorem writes_put (d : Disk) (node : Node) (h : place ≠ []) :
    Writes d place node { d with tree := d.tree.put place node } :=
  ⟨rfl, rfl, Tree.node?_put_self h, fun _ => Tree.node?_put_of_ne⟩

theorem Writes.extends (h : Writes d place node d') (hfree : d.tree.node? place = none) :
    d.tree.Extends d'.tree := by
  intro l found hfound
  have hne : l ≠ place := by
    rintro rfl
    rw [hfree] at hfound
    cases hfound
  rw [h.same l hne, hfound]

theorem Writes.addsFile {mode : Nat} {content : Bytes}
    (h : Writes d place (.file mode content) d') : d.tree.AddsFile d'.tree place :=
  ⟨⟨mode, content, h.written⟩, h.same⟩

/-- To take away again what was written where nothing stood leaves no trace. -/
theorem Writes.erase (h : Writes d place node d') (hplace : place ≠ [])
    (hfree : d.tree.node? place = none) (loc : Location) :
    (d'.tree.erase place).node? loc = d.tree.node? loc := by
  by_cases hloc : loc = place
  · subst hloc
    exact (Tree.node?_erase_self hplace).trans hfree.symm
  · exact (Tree.node?_erase_of_ne hloc).trans (h.same loc hloc)

end

theorem ne_nil_of_getLast? {loc : Location} {name : Bytes} (h : loc.getLast? = some name) :
    loc ≠ [] := by
  rintro rfl
  cases h

/-! ## Directories -/

theorem makeFolder_grows {d d' : Disk} {path name : Bytes} (hpath : EndsIn path name)
    (hname : IsName name) (h : d.makeFolder path = .ok d') : Grows d d' := by
  unfold makeFolder at h
  split at h
  · cases h
    exact .refl d
  · cases h
  · rename_i parent last hlocate
    cases h
    have hnone : d.tree.node? (parent ++ [last]) = none := (locate_ends hlocate hpath hname).1
    refine ⟨rfl, rfl, fun loc => ?_⟩
    by_cases hloc : loc = parent ++ [last]
    · subst hloc
      exact .inr ⟨hnone, Tree.node?_put_self (by simp)⟩
    · exact .inl (Tree.node?_put_of_ne hloc)
  · cases h

/-- Making directories adds directories, whether it ends well or not. -/
theorem makeFolders_grows (d : Disk) {names : List Bytes} (hnames : ∀ name ∈ names, IsName name) :
    Grows d (d.makeFolders names).1 := by
  induction names with
  | nil => exact .refl d
  | cons name above ih =>
      rw [List.forall_mem_cons] at hnames
      have hends : EndsIn (pathOf (name :: above).reverse) name := by
        rw [List.reverse_cons]
        exact Path.pathOf_append_endsIn above.reverse name
      have habove := ih hnames.2
      rw [makeFolders]
      split
      · exact .refl d
      · exact .refl d
      · split
        · rename_i made fault hmade
          rw [hmade] at habove
          exact habove
        · rename_i made hmade
          rw [hmade] at habove
          split
          · rename_i hfolder
            exact habove.trans (makeFolder_grows hends hnames.1 hfolder)
          · exact habove

/-! ## Temporary names -/

theorem separator_not_mem_decimal (n : Nat) : Path.separator ∉ decimal n := by
  rw [decimal, Utf8.encode, List.mem_flatMap]
  rintro ⟨c, hc, hmem⟩
  have hdigit : c.isDigit = true := Nat.isDigit_of_mem_toDigits (by decide) (by decide) hc
  have hrange : 48 ≤ c.toNat ∧ c.toNat - 48 < 10 := by
    simp only [Char.isDigit, Bool.and_eq_true, decide_eq_true_eq] at hdigit
    have hlow : 48 ≤ c.toNat := hdigit.1
    have hhigh : c.toNat ≤ 57 := hdigit.2
    omega
  have hnone : ∀ k < 10, Path.separator ∉ String.utf8EncodeChar (Char.ofNat (48 + k)) := by decide
  have hchar : Char.ofNat (48 + (c.toNat - 48)) = c := by
    rw [Nat.add_sub_cancel' hrange.1, Char.ofNat_toNat]
  exact hnone _ hrange.2 (by rw [hchar]; exact hmem)

theorem tempName_injective : Function.Injective tempName := by
  intro j k h
  rw [tempName, tempName, List.append_cancel_right_eq, List.append_cancel_left_eq] at h
  exact decimal_injective h

theorem isName_tempName (k : Nat) : IsName (tempName k) := by
  have hlong : 2 < (tempName k).length := by
    have h : (Bytes.ofString ".krpcgen-").length = 9 := by decide
    simp only [tempName, List.length_append, h]
    omega
  refine ⟨?_, ?_, ?_, ?_⟩
  · intro h
    simp [h] at hlong
  · intro h
    rw [h] at hlong
    exact absurd hlong (by decide)
  · intro h
    rw [h] at hlong
    exact absurd hlong (by decide)
  · have hlead : Path.separator ∉ Bytes.ofString ".krpcgen-" := by decide
    have htail : Path.separator ∉ Bytes.ofString ".tmp" := by decide
    simp only [tempName, List.mem_append, hlead, separator_not_mem_decimal, htail, or_self,
      not_false_eq_true]

theorem inFolder_endsIn (path name : Bytes) : EndsIn (inFolder path name) name := by
  unfold inFolder
  split
  · exact ⟨[], rfl⟩
  · exact ⟨path, by simp⟩

theorem mem_entries_of_node? {t : Tree} {loc : Location} {node : Node} (hloc : loc ≠ [])
    (h : t.node? loc = some node) : loc ∈ t.entries.map Prod.fst := by
  by_contra hmem
  rw [Tree.node?_of_ne_nil hloc, Association.lookup_eq_none_iff_not_mem.mpr hmem] at h
  cases h

/-- A name that is not free is the final one, or the last name of something that is there. -/
theorem tempName_mem_of_not_free {d : Disk} {folder final : Bytes} {k : Nat}
    (h : d.isFree folder final k = false) :
    tempName k ∈ final :: (d.tree.entries.map Prod.fst).filterMap List.getLast? := by
  by_cases hfinal : tempName k = final
  · rw [hfinal]
    exact List.mem_cons_self
  · rw [isFree, bne_iff_ne.mpr hfinal, Bool.true_and] at h
    split at h
    · rename_i loc node hlocate
      obtain ⟨hnode, hlast⟩ := locate_ends hlocate (inFolder_endsIn folder _) (isName_tempName k)
      have hmem := mem_entries_of_node? (ne_nil_of_getLast? hlast) hnode
      exact List.mem_cons_of_mem _ (List.mem_filterMap.mpr ⟨loc, hmem, hlast⟩)
    · cases h

/-- Of so many names one is free, since no two of them are taken by the same thing. -/
theorem exists_freeName (d : Disk) (folder final : Bytes) :
    ∃ k, d.freeName folder final = tempName k ∧ d.isFree folder final k = true := by
  cases hfind : (List.range (d.tree.entries.length + 2)).find? (d.isFree folder final) with
  | some k => exact ⟨k, by rw [freeName, hfind]; rfl, List.find?_some hfind⟩
  | none =>
      exfalso
      rw [List.find?_eq_none] at hfind
      have hnodup : ((List.range (d.tree.entries.length + 2)).map tempName).Nodup :=
        List.Nodup.map tempName_injective List.nodup_range
      have hsub : (List.range (d.tree.entries.length + 2)).map tempName ⊆
          final :: (d.tree.entries.map Prod.fst).filterMap List.getLast? := by
        intro name hname
        obtain ⟨k, hk, rfl⟩ := List.mem_map.mp hname
        exact tempName_mem_of_not_free (Bool.eq_false_iff.mpr (hfind k hk))
      have hlength := (hnodup.subperm hsub).length_le
      have hfew := List.length_filterMap_le List.getLast? (d.tree.entries.map Prod.fst)
      simp only [List.length_map, List.length_range, List.length_cons] at hlength hfew
      omega

/-! ## Temporary files -/

/-- The second disk has a file under a temporary name where the first one has nothing: at a location
to which a path leads that ends in another name than the final one. -/
structure Parks (d : Disk) (temp : Bytes) (loc : Location) (final : Bytes) (node : Node)
    (d' : Disk) : Prop where
  file : ∃ mode content, node = .file mode content
  leads : ∃ target, d.locate false temp = .ok target ∧ target.loc = loc
  free : d.tree.node? loc = none
  ends : ∃ name, EndsIn temp name ∧ IsName name ∧ loc.getLast? = some name ∧ name ≠ final
  writes : Writes d loc node d'

theorem createTemp_parks {d d' : Disk} {folder final : Bytes} {file : OpenFile}
    (h : d.createTemp folder final = .ok (d', file)) :
    Parks d file.path file.loc final (.file tempMode []) d' := by
  obtain ⟨k, hname, hfree⟩ := exists_freeName d folder final
  have hends : EndsIn (inFolder folder (tempName k)) (tempName k) := inFolder_endsIn folder _
  rw [createTemp, hname] at h
  split at h
  · rename_i parent name hlocate
    cases h
    obtain ⟨hnone, hlast⟩ := locate_ends hlocate hends (isName_tempName k)
    refine ⟨⟨tempMode, [], rfl⟩, ⟨_, hlocate, rfl⟩, hnone, ?_,
      writes_put d _ (ne_nil_of_getLast? hlast)⟩
    rw [isFree, Bool.and_eq_true, bne_iff_ne] at hfree
    exact ⟨tempName k, hends, isName_tempName k, hlast, hfree.1⟩
  · cases h
  · cases h

section

variable {d d' d₂ : Disk} {temp final full : Bytes} {loc : Location} {node : Node}

namespace Parks

theorem ne_nil (h : Parks d temp loc final node d') : loc ≠ [] := by
  obtain ⟨name, _, _, hlast, _⟩ := h.ends
  exact ne_nil_of_getLast? hlast

/-- The temporary file is found on every disk that has what the disk with it has. -/
theorem find_eq (h : Parks d temp loc final node d') (hcwd : d₂.cwd = d'.cwd)
    (ht : d'.tree.Extends d₂.tree) : d₂.find false temp = .ok (loc, node) := by
  obtain ⟨target, hlocate, rfl⟩ := h.leads
  obtain ⟨name, hends, hname, _, _⟩ := h.ends
  have hextends : d.tree.Extends d₂.tree := fun l found hfound =>
    ht l found (h.writes.extends h.free l found hfound)
  obtain ⟨target', hlocate', hloc⟩ := locate_extends hlocate (hcwd.trans h.writes.cwd) hextends
  have hholds : target'.Holds d₂.tree := (locate_ends hlocate' hends hname).1
  have hnode : d₂.tree.node? target'.loc = some node := by
    rw [hloc]
    exact ht _ _ h.writes.written
  rw [find_eq_ok_iff, hlocate', target'.eq_present hholds hnode, hloc]

/-- On such a disk it is what is taken away under the temporary name. -/
theorem discard_eq (h : Parks d temp loc final node d') (hcwd : d₂.cwd = d'.cwd)
    (ht : d'.tree.Extends d₂.tree) : d₂.discard temp = { d₂ with tree := d₂.tree.erase loc } := by
  obtain ⟨mode, content, rfl⟩ := h.file
  rw [discard, h.find_eq hcwd ht]
  rfl

/-- A temporary file can be put in place of another one. -/
theorem put (h : Parks d temp loc final node d') (mode : Nat) (content : Bytes) :
    Parks d temp loc final (.file mode content)
      { d' with tree := d'.tree.put loc (.file mode content) } where
  file := ⟨mode, content, rfl⟩
  leads := h.leads
  free := h.free
  ends := h.ends
  writes :=
    ⟨h.writes.cwd, h.writes.device, Tree.node?_put_self h.ne_nil,
      fun l hl => (Tree.node?_put_of_ne hl).trans (h.writes.same l hl)⟩

/-- Writing to a temporary file leaves one with some bytes, all of them if the device has no fault. -/
theorem write {file : OpenFile} {mode : Nat} (h : Parks d file.path file.loc final (.file mode []) d')
    (content : Bytes) :
    ∃ written, Parks d file.path file.loc final (.file mode written) (d'.write file content).1 ∧
      ((d'.write file content).2 = none → written = content) := by
  have happend : ∀ bytes,
      Parks d file.path file.loc final (.file mode bytes) (d'.append file.loc bytes) := by
    intro bytes
    rw [append, h.writes.written]
    exact h.put mode bytes
  unfold Disk.write
  split
  · exact ⟨content, happend content, fun _ => rfl⟩
  · exact ⟨_, happend _, fun hnone => by cases hnone⟩

/-- Setting the permissions of a temporary file changes nothing else, unless the device fails. -/
theorem chmod_eq {mode : Nat} {content : Bytes} (h : Parks d temp loc final (.file mode content) d')
    (hdevice : d'.device.chmod = none) (mode' : Nat) :
    d'.chmod temp mode' = .ok { d' with tree := d'.tree.put loc (.file mode' content) } := by
  have hfind : d'.find true temp = .ok (loc, .file mode content) :=
    find_follow_last (h.find_eq rfl fun _ _ hnode => hnode) (by simp)
  rw [chmod, hdevice, hfind]

/-- A temporary file that is only taken away leaves no trace. -/
theorem grows_discard (h : Parks d temp loc final node d') : Grows d (d'.discard temp) := by
  rw [h.discard_eq rfl fun _ _ hnode => hnode]
  exact .of_same h.writes.cwd h.writes.device (h.writes.erase h.ne_nil h.free)

/-- A path that ends in the final name leads where it did, and not to the temporary file. -/
theorem locate_final (h : Parks d temp loc final node d') (hfull : EndsIn full final)
    (hfinal : IsName final) {target : Target} (hlocate : d'.locate false full = .ok target) :
    target.loc ≠ loc ∧ target.loc ≠ [] ∧ target.Holds d'.tree ∧
      d.locate false full = .ok target := by
  obtain ⟨hholds, hlast⟩ := locate_ends hlocate hfull hfinal
  obtain ⟨mode, content, rfl⟩ := h.file
  have hne : target.loc ≠ loc := by
    intro heq
    obtain ⟨name, _, _, hname, hother⟩ := h.ends
    rw [heq, hname] at hlast
    exact hother (Option.some.inj hlast)
  exact ⟨hne, ne_nil_of_getLast? hlast, hholds,
    locate_without_file hlocate h.writes.cwd h.writes.addsFile hne⟩

/-- Once the file stands at its place only, nothing is found under the temporary name, even if the way
there leads nowhere now: the path of the temporary file ends in another name than the place. -/
theorem discard_of_writes (h : Parks d temp loc final node d') {place : Location}
    (hplace : place.getLast? = some final) (hwrites : Writes d place node d₂) :
    d₂.discard temp = d₂ := by
  obtain ⟨mode, content, rfl⟩ := h.file
  obtain ⟨name, hends, hname, _, hother⟩ := h.ends
  unfold discard
  split
  · rename_i l found hfind
    exfalso
    have hlocate := find_eq_ok_iff.mp hfind
    have hne : l ≠ place := by
      rintro rfl
      have hlast := (locate_ends hlocate hends hname).2
      exact hother (Option.some.inj (hlast.symm.trans hplace))
    have hbefore := locate_without_file hlocate hwrites.cwd hwrites.addsFile hne
    obtain ⟨target, htarget, rfl⟩ := h.leads
    obtain rfl := Except.ok.inj (htarget.symm.trans hbefore)
    have hfound : d.tree.node? l = some found := (locate_ends hbefore hends hname).1
    exact absurd (hfound.symm.trans h.free) (by simp)
  · rfl

/-- A path that ends in the final name leads to the same with the temporary file and without it. -/
theorem locate_iff (h : Parks d temp loc final node d') (hfull : EndsIn full final)
    (hfinal : IsName final) {target : Target} :
    d'.locate false full = .ok target ↔ d.locate false full = .ok target := by
  constructor
  · intro hlocate
    exact (h.locate_final hfull hfinal hlocate).2.2.2
  · intro hlocate
    obtain ⟨target', hlocate', -⟩ :=
      locate_extends hlocate h.writes.cwd (h.writes.extends h.free)
    obtain ⟨-, -, -, hbefore⟩ := h.locate_final hfull hfinal hlocate'
    obtain rfl := Except.ok.inj (hlocate.symm.trans hbefore)
    exact hlocate'

/-- Moving the temporary file ends well where the path leads to anything but a directory. -/
theorem rename_eq_ok_iff (h : Parks d temp loc final node d') :
    d'.rename temp full = .ok d₂ ↔
      ∃ target, d'.locate false full = .ok target ∧ (∀ l, target ≠ .present l .folder) ∧
        d₂ = { d' with tree := (d'.tree.erase loc).put target.loc node } := by
  obtain ⟨mode, content, rfl⟩ := h.file
  rw [Disk.rename, h.find_eq rfl fun _ _ hnode => hnode]
  cases hlocate : d'.locate false full with
  | error reason => simp
  | ok target =>
      cases target with
      | absent parent name => simp [Target.loc, eq_comm]
      | present l found => cases found <;> simp [Target.loc, eq_comm]

/-- Giving the temporary file a second name ends well where the path leads to nothing. -/
theorem link_eq_ok_iff (h : Parks d temp loc final node d') :
    d'.link temp full = .ok d₂ ↔
      ∃ parent name, d'.locate false full = .ok (.absent parent name) ∧
        d₂ = { d' with tree := d'.tree.put (parent ++ [name]) node } := by
  obtain ⟨mode, content, rfl⟩ := h.file
  rw [Disk.link, h.find_eq rfl fun _ _ hnode => hnode]
  cases hlocate : d'.locate false full with
  | error reason => simp
  | ok target =>
      cases target with
      | absent parent name => simp [eq_comm]
      | present l found => simp

/-- Moving the temporary file writes it to its place, and to take it away afterwards does nothing. -/
theorem writes_rename (h : Parks d temp loc final node d') (hfull : EndsIn full final)
    (hfinal : IsName final) {target : Target} (hlocate : d'.locate false full = .ok target) :
    Writes d target.loc node (Disk.discard
      { d' with tree := (d'.tree.erase loc).put target.loc node } temp) := by
  obtain ⟨hne, hnil, -, hbefore⟩ := h.locate_final hfull hfinal hlocate
  have hwrites : Writes d target.loc node
      { d' with tree := (d'.tree.erase loc).put target.loc node } := by
    refine ⟨h.writes.cwd, h.writes.device, Tree.node?_put_self hnil, fun l hl => ?_⟩
    exact (Tree.node?_put_of_ne hl).trans (h.writes.erase h.ne_nil h.free l)
  rwa [h.discard_of_writes (locate_ends hbefore hfull hfinal).2 hwrites]

/-- Giving the temporary file a second name writes it to its place; it still has to be taken away
under the first one. -/
theorem writes_link (h : Parks d temp loc final node d') (hfull : EndsIn full final)
    (hfinal : IsName final) {parent : Location} {name : Bytes}
    (hlocate : d'.locate false full = .ok (.absent parent name)) :
    Writes d (parent ++ [name]) node (Disk.discard
      { d' with tree := d'.tree.put (parent ++ [name]) node } temp) := by
  obtain ⟨hne, hnil, hfree, -⟩ := h.locate_final hfull hfinal hlocate
  have hlinked : Writes d' (parent ++ [name]) node _ := writes_put d' node hnil
  rw [h.discard_eq hlinked.cwd (hlinked.extends hfree)]
  refine ⟨h.writes.cwd, h.writes.device, (Tree.node?_erase_of_ne hne).trans hlinked.written,
    fun l hl => ?_⟩
  by_cases hloc : l = loc
  · subst hloc
    exact (Tree.node?_erase_self h.ne_nil).trans h.free.symm
  · exact (Tree.node?_erase_of_ne hloc).trans ((hlinked.same l hl).trans (h.writes.same l hloc))

end Parks

end

end RpcBindings.File.Disk
