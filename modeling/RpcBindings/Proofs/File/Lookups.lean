import Mathlib.Data.List.Sort
import RpcBindings.File.Disk
import RpcBindings.Proofs.File.Walk
import RpcBindings.Proofs.Text.Bytes

/-!
# What a call looks at

A walk looks up one location after another, and where it leads hangs on what stands at these locations
and on nothing else.  A path is found through a place if one of them is the place or lies below it; a
path that is not so found leads to the same on two disks that differ there alone.  The names in a
directory are what stands directly below it, each name once and in increasing order.
-/

set_option autoImplicit false

namespace RpcBindings.File

open RpcBindings.Path (IsName)

/-! ## Nodes and locations -/

theorem Node.isFolder_eq_false_iff {node : Node} : node.isFolder = false ↔ node ≠ .folder := by
  cases node <;> simp [Node.isFolder]

theorem not_prefix_of_ne {loc : Location} {name other : Bytes} (h : other ≠ name) :
    ¬ loc ++ [name] <+: loc ++ [other] := by
  rw [List.prefix_append_right_inj, List.cons_prefix_cons]
  exact fun heq => h heq.1.symm

/-! ## Names in a directory -/

namespace Tree

/-- Every location is there once, and is made of names that can stand in a directory. -/
structure WellFormed (t : Tree) : Prop where
  distinct : (t.entries.map Prod.fst).Nodup
  names : ∀ e ∈ t.entries, ∀ name ∈ e.1, IsName name

instance (t : Tree) : Decidable t.WellFormed :=
  decidable_of_iff ((t.entries.map Prod.fst).Nodup ∧ ∀ e ∈ t.entries, ∀ name ∈ e.1, IsName name)
    ⟨fun h => ⟨h.1, h.2⟩, fun h => ⟨h.distinct, h.names⟩⟩

variable {t t' : Tree} {loc : Location} {name : Bytes} {node : Node}

theorem WellFormed.erase (h : t.WellFormed) (loc : Location) : (t.erase loc).WellFormed where
  distinct := Association.nodup_filter h.distinct loc
  names e he := h.names e (List.mem_of_mem_filter he)

theorem WellFormed.put (h : t.WellFormed) (hloc : ∀ name ∈ loc, IsName name) :
    (t.put loc node).WellFormed where
  distinct := by
    rw [Tree.put, List.map_append, List.nodup_append]
    refine ⟨(h.erase loc).distinct, List.nodup_singleton _, ?_⟩
    intro l hl l' hl' heq
    obtain ⟨e, he, rfl⟩ := List.mem_map.mp hl
    have hne : e.1 ≠ loc := by simpa using (List.mem_filter.mp he).2
    exact hne (heq.trans (List.mem_singleton.mp hl'))
  names e he := by
    rcases List.mem_append.mp he with he | he
    · exact (h.erase loc).names e he
    · rw [List.mem_singleton.mp he]
      exact hloc

theorem WellFormed.mem_entries_iff (h : t.WellFormed) (hloc : loc ≠ []) :
    (loc, node) ∈ t.entries ↔ t.node? loc = some node := by
  rw [node?_of_ne_nil hloc, Association.mem_iff_lookup_eq_some h.distinct]

theorem WellFormed.isName_of_node? (h : t.WellFormed) (hnode : t.node? (loc ++ [name]) = some node) :
    IsName name :=
  h.names _ ((h.mem_entries_iff (by simp)).mpr hnode) name (by simp)

/-- The entry as the directory at a location lists it, if it stands directly below. -/
def childOf (loc : Location) (e : Location × Node) : Option (Bytes × Node) :=
  match e.1.getLast? with
  | some name => if e.1.dropLast = loc then some (name, e.2) else none
  | none => none

theorem childOf_eq_some_iff {e : Location × Node} {child : Bytes × Node} :
    childOf loc e = some child ↔ e = (loc ++ [child.1], child.2) := by
  obtain ⟨l, found⟩ := e
  obtain ⟨name, node⟩ := child
  rcases List.eq_nil_or_concat l with rfl | ⟨parent, last, rfl⟩
  · simp [childOf]
  · by_cases hparent : parent = loc
    · simp [childOf, hparent]
    · simp [childOf, hparent]

theorem WellFormed.mem_children_iff (h : t.WellFormed) :
    (name, node) ∈ t.children loc ↔ t.node? (loc ++ [name]) = some node := by
  have hsorts : (name, node) ∈ t.children loc ↔ (name, node) ∈ t.entries.filterMap (childOf loc) :=
    (Bytes.sortOn_sorts _ _).mem_iff _
  rw [hsorts, List.mem_filterMap, ← h.mem_entries_iff (by simp)]
  simp only [childOf_eq_some_iff, exists_eq_right]

theorem WellFormed.children_increasing (h : t.WellFormed) (loc : Location) :
    (t.children loc).Pairwise fun a b => a.1 < b.1 := by
  have hlisted : (t.entries.filterMap (childOf loc)).Pairwise fun a b => a.1 ≠ b.1 := by
    refine List.Pairwise.filterMap (childOf loc) ?_ (List.pairwise_map.mp h.distinct)
    intro e e' hne a ha b hb hab
    rw [childOf_eq_some_iff] at ha hb
    exact hne (by rw [ha, hb, hab])
  have hperm : (t.entries.filterMap (childOf loc)).Perm (t.children loc) :=
    (List.mergeSort_perm _ _).symm
  have hdistinct := (hperm.pairwise_iff fun hab => Ne.symm hab).mp hlisted
  have hincreasing : (t.children loc).Pairwise fun a b => a.1 ≤ b.1 :=
    (Bytes.sortOn_sorts _ _).increasing
  refine (hincreasing.and hdistinct).imp ?_
  rintro a b ⟨hle, hne⟩
  exact List.not_le.mp fun hge => hne (List.le_antisymm hle hge)

/-- Two directories that have the same under all names but one list the same but for this name. -/
theorem WellFormed.children_filter_eq (h : t.WellFormed) (h' : t'.WellFormed)
    (hsame : ∀ other, other ≠ name → t'.node? (loc ++ [other]) = t.node? (loc ++ [other])) :
    ((t'.children loc).filter fun e => e.1 ≠ name) = (t.children loc).filter fun e => e.1 ≠ name := by
  have hirrefl : Std.Irrefl fun a b : Bytes × Node => a.1 < b.1 := ⟨fun a => List.lt_irrefl a.1⟩
  have hantisymm : Std.Antisymm fun a b : Bytes × Node => a.1 < b.1 :=
    ⟨fun _ _ hab hba => absurd hba (List.lt_asymm hab)⟩
  refine ((h'.children_increasing loc).filter _).eq_of_mem_iff
    ((h.children_increasing loc).filter _) ?_
  rintro ⟨other, node⟩
  rw [List.mem_filter, List.mem_filter, h.mem_children_iff, h'.mem_children_iff]
  by_cases hother : other = name
  · simp [hother]
  · rw [hsame other hother]

end Tree

/-! ## The locations that a walk looks up -/

/-- The locations that are looked up when names are walked from a location; `follow` gives those that
are looked up behind a link. -/
def lookupsNames (t : Tree) (followLast : Bool) (follow : Location → List Bytes → List Location) :
    Location → Node → List Bytes → List Location
  | _, _, [] => []
  | loc, node, name :: rest =>
      if !node.isFolder then []
      else if name = [] ∨ name = Path.here then lookupsNames t followLast follow loc .folder rest
      else if name = Path.up then lookupsNames t followLast follow loc.dropLast .folder rest
      else if name.length > maxName then []
      else
        (loc ++ [name]) ::
          match t.node? (loc ++ [name]) with
          | none => []
          | some (.link target) =>
              if rest.isEmpty && !followLast then []
              else follow (startOf loc target) (Bytes.split Path.separator target ++ rest)
          | some found => lookupsNames t followLast follow (loc ++ [name]) found rest

/-- The locations that are looked up when names are walked and at most `links` links are followed. -/
def lookups (t : Tree) (followLast : Bool) : Nat → Location → List Bytes → List Location
  | 0 => fun loc names => lookupsNames t followLast (fun _ _ => []) loc .folder names
  | links + 1 => fun loc names =>
      lookupsNames t followLast (lookups t followLast links) loc .folder names

section

variable {t t' : Tree} {followLast : Bool} {links : Nat} {loc : Location} {node : Node}
  {names : List Bytes} {target : Target}

theorem walkNames_congr {look : Location → List Bytes → List Location}
    {follow follow' : Location → List Bytes → Except Reason Target}
    (hfollow : ∀ loc names, (∀ l ∈ look loc names, t'.node? l = t.node? l) →
      follow' loc names = follow loc names)
    (h : ∀ l ∈ lookupsNames t followLast look loc node names, t'.node? l = t.node? l) :
    walkNames t' followLast follow' loc node names =
      walkNames t followLast follow loc node names := by
  induction names generalizing loc node with
  | nil => rfl
  | cons name rest ih =>
      rw [lookupsNames] at h
      rw [walkNames, walkNames]
      split
      · rfl
      rename_i hfolder
      rw [if_neg hfolder] at h
      split
      · rename_i hstay
        rw [if_pos hstay] at h
        exact ih h
      rename_i hstay
      rw [if_neg hstay] at h
      split
      · rename_i hup
        rw [if_pos hup] at h
        exact ih h
      rename_i hup
      rw [if_neg hup] at h
      split
      · rfl
      rename_i hlength
      rw [if_neg hlength, List.forall_mem_cons] at h
      rw [h.1]
      cases hnode : t.node? (loc ++ [name]) with
      | none => rfl
      | some found =>
          rw [hnode] at h
          cases found with
          | file mode content | folder | special => exact ih h.2
          | link path =>
              by_cases hlast : (rest.isEmpty && !followLast) = true
              · simp only [hlast, if_true]
              · simp only [hlast] at h ⊢
                exact hfollow _ _ h.2

/-- Where a walk leads hangs on what stands at the locations it looks up. -/
theorem walk_congr (h : ∀ l ∈ lookups t followLast links loc names, t'.node? l = t.node? l) :
    walk t' followLast links loc names = walk t followLast links loc names := by
  induction links generalizing loc names with
  | zero => exact walkNames_congr (fun _ _ _ => rfl) h
  | succ links ih => exact walkNames_congr (fun _ _ hlook => ih hlook) h

/-! ## Lookups of some names and of more -/

theorem lookupsNames_proper {look : Location → List Bytes → List Location} {name : Bytes}
    {rest : List Bytes} (h : Proper name) :
    lookupsNames t followLast look loc .folder (name :: rest) =
      (loc ++ [name]) ::
        match t.node? (loc ++ [name]) with
        | none => []
        | some (.link target) =>
            if rest.isEmpty && !followLast then []
            else look (startOf loc target) (Bytes.split Path.separator target ++ rest)
        | some found => lookupsNames t followLast look (loc ++ [name]) found rest := by
  rw [lookupsNames, if_neg (by simp [Node.isFolder]), if_neg (by simp [h.ne_nil, h.ne_here]),
    if_neg h.ne_up]
  exact if_neg (Nat.not_lt.mpr h.length_le)

theorem lookupsNames_stay {look : Location → List Bytes → List Location} {name : Bytes}
    {rest : List Bytes} (h : name = [] ∨ name = Path.here) :
    lookupsNames t followLast look loc .folder (name :: rest) =
      lookupsNames t followLast look loc .folder rest := by
  rw [lookupsNames, if_neg (by simp [Node.isFolder]), if_pos h]

theorem lookupsNames_up {look : Location → List Bytes → List Location} {rest : List Bytes} :
    lookupsNames t followLast look loc .folder (Path.up :: rest) =
      lookupsNames t followLast look loc.dropLast .folder rest := by
  rw [lookupsNames, if_neg (by simp [Node.isFolder]), if_neg (by decide), if_pos rfl]

/-- The locations that are looked up behind a link. -/
def lookupsOf (t : Tree) (followLast : Bool) : Nat → Location → List Bytes → List Location
  | 0 => fun _ _ => []
  | links + 1 => lookups t followLast links

theorem lookups_eq_lookupsNames :
    lookups t followLast links loc names =
      lookupsNames t followLast (lookupsOf t followLast links) loc .folder names := by
  cases links <;> rfl

theorem lookupsNames_subset {look look' : Location → List Bytes → List Location}
    (h : ∀ loc names, look loc names ⊆ look' loc names) :
    lookupsNames t followLast look loc node names ⊆
      lookupsNames t followLast look' loc node names := by
  induction names generalizing loc node with
  | nil => exact List.Subset.refl _
  | cons name rest ih =>
      rw [lookupsNames, lookupsNames]
      split
      · exact List.Subset.refl _
      split
      · exact ih
      split
      · exact ih
      split
      · exact List.Subset.refl _
      apply List.cons_subset_cons
      split
      · exact List.Subset.refl _
      · split
        · exact List.Subset.refl _
        · exact h _ _
      · exact ih

theorem lookups_subset_succ :
    lookups t followLast links loc names ⊆ lookups t followLast (links + 1) loc names := by
  induction links generalizing loc names with
  | zero => exact lookupsNames_subset fun _ _ => List.nil_subset _
  | succ links ih => exact lookupsNames_subset fun _ _ => ih

/-- With one more link to follow, all is looked up that was looked up before. -/
theorem lookupsNames_subset_succ :
    lookupsNames t followLast (lookupsOf t followLast links) loc node names ⊆
      lookupsNames t followLast (lookupsOf t followLast (links + 1)) loc node names := by
  apply lookupsNames_subset
  intro loc names
  cases links with
  | zero => exact List.nil_subset _
  | succ links => exact lookups_subset_succ

/-- With one more link to follow, names lead where they led. -/
theorem Walks.succ (h : Walks t followLast links loc node names target) :
    Walks t followLast (links + 1) loc node names target := by
  induction h with
  | done => exact .done
  | stay hname _ ih => exact .stay hname ih
  | up _ ih => exact .up ih
  | missing hproper hnode => exact .missing hproper hnode
  | keep hproper hnode hlast => exact .keep hproper hnode hlast
  | follow hproper hnode hrest _ ih => exact .follow hproper hnode hrest ih
  | enter hproper hnode hlink _ ih => exact .enter hproper hnode hlink ih

/-- Names lead to one target. -/
theorem Walks.unique {target' : Target} (h : Walks t followLast links loc node names target)
    (h' : Walks t followLast links loc node names target') : target = target' :=
  Except.ok.inj ((walkNames_of_walks h).symm.trans (walkNames_of_walks h'))

/-- Names that are followed by more names lead somewhere, and the others lead on from there. -/
theorem Walks.split {xs ys : List Bytes} (hys : ys ≠ [])
    (h : Walks t true links loc node names target) (hnames : names = xs ++ ys) :
    ∃ mid found, Walks t true links loc node xs (.present mid found) ∧
      Walks t true links mid found ys target := by
  induction h generalizing xs with
  | done => exact absurd (List.append_eq_nil_iff.mp hnames.symm).2 hys
  | stay hname hwalks ih =>
      cases xs with
      | nil =>
          obtain rfl : _ :: _ = ys := hnames
          exact ⟨_, _, .done, .stay hname hwalks⟩
      | cons x xs =>
          obtain ⟨rfl, hrest⟩ := List.cons.inj hnames
          obtain ⟨mid, found, hfirst, hothers⟩ := ih hrest
          exact ⟨mid, found, .stay hname hfirst, hothers⟩
  | up hwalks ih =>
      cases xs with
      | nil =>
          obtain rfl : _ :: _ = ys := hnames
          exact ⟨_, _, .done, .up hwalks⟩
      | cons x xs =>
          obtain ⟨rfl, hrest⟩ := List.cons.inj hnames
          obtain ⟨mid, found, hfirst, hothers⟩ := ih hrest
          exact ⟨mid, found, .up hfirst, hothers⟩
  | missing hproper hnode =>
      cases xs with
      | nil =>
          obtain rfl : _ :: _ = ys := hnames
          exact ⟨_, _, .done, .missing hproper hnode⟩
      | cons x xs =>
          have hrest := (List.cons.inj hnames).2
          exact absurd (List.append_eq_nil_iff.mp hrest.symm).2 hys
  | keep _ _ hlast => exact absurd hlast (by decide)
  | @follow _ loc name path rest target hproper hnode hrest hwalks ih =>
      cases xs with
      | nil =>
          obtain rfl : _ :: _ = ys := hnames
          exact ⟨_, _, .done, .follow hproper hnode hrest hwalks⟩
      | cons x xs =>
          obtain ⟨rfl, rfl⟩ := List.cons.inj hnames
          obtain ⟨mid, found, hfirst, hothers⟩ := ih (List.append_assoc _ _ _).symm
          exact ⟨mid, found, .follow hproper hnode (fun _ => rfl) hfirst, hothers.succ⟩
  | enter hproper hnode hlink hwalks ih =>
      cases xs with
      | nil =>
          obtain rfl : _ :: _ = ys := hnames
          exact ⟨_, _, .done, .enter hproper hnode hlink hwalks⟩
      | cons x xs =>
          obtain ⟨rfl, hrest⟩ := List.cons.inj hnames
          obtain ⟨mid, found, hfirst, hothers⟩ := ih hrest
          exact ⟨mid, found, .enter hproper hnode hlink hfirst, hothers⟩

/-- What is looked up for all names is looked up for the first ones, or for the others from where these
lead. -/
theorem Walks.mem_lookups_append {xs ys : List Bytes} {l : Location}
    (h : Walks t true links loc node xs target)
    (hl : l ∈ lookupsNames t true (lookupsOf t true links) loc node (xs ++ ys)) :
    l ∈ lookupsNames t true (lookupsOf t true links) loc node xs ∨
      ∃ found, target = .present target.loc found ∧
        l ∈ lookupsNames t true (lookupsOf t true links) target.loc found ys := by
  induction h with
  | done => exact .inr ⟨_, rfl, hl⟩
  | stay hname _ ih =>
      rw [lookupsNames_stay hname]
      rw [List.cons_append, lookupsNames_stay hname] at hl
      exact ih hl
  | up _ ih =>
      rw [lookupsNames_up]
      rw [List.cons_append, lookupsNames_up] at hl
      exact ih hl
  | missing hproper hnode =>
      rw [List.cons_append, lookupsNames_proper hproper, hnode] at hl
      rw [lookupsNames_proper hproper, hnode]
      exact .inl hl
  | keep _ _ hlast => exact absurd hlast (by decide)
  | @follow links loc name path rest target hproper hnode _ _ ih =>
      rw [List.cons_append, lookupsNames_proper hproper, hnode] at hl
      rw [lookupsNames_proper hproper, hnode]
      simp only [Bool.not_true, Bool.and_false, Bool.false_eq_true, if_false, lookupsOf,
        lookups_eq_lookupsNames, ← List.append_assoc] at hl ⊢
      rcases List.mem_cons.mp hl with rfl | hl
      · exact .inl List.mem_cons_self
      rcases ih hl with hfirst | ⟨found, htarget, hothers⟩
      · exact .inl (List.mem_cons_of_mem _ hfirst)
      · exact .inr ⟨found, htarget, lookupsNames_subset_succ hothers⟩
  | @enter links loc name rest node target hproper hnode hlink _ ih =>
      rw [List.cons_append, lookupsNames_proper hproper, hnode] at hl
      rw [lookupsNames_proper hproper, hnode]
      cases node with
      | link path => exact absurd rfl (hlink path)
      | file mode content | folder | special =>
          rcases List.mem_cons.mp hl with rfl | hl
          · exact .inl List.mem_cons_self
          · exact (ih hl).imp_left (List.mem_cons_of_mem _)

/-! ## Names that stay where they are -/

theorem walk_stay {blanks : List Bytes} (h : ∀ blank ∈ blanks, blank = [] ∨ blank = Path.here) :
    walk t followLast links loc (blanks ++ names) = walk t followLast links loc names := by
  induction blanks with
  | nil => rfl
  | cons blank blanks ih =>
      rw [List.forall_mem_cons] at h
      rw [← ih h.2, walk_eq_walkNames, walk_eq_walkNames, List.cons_append, walkNames,
        if_neg (by simp [Node.isFolder]), if_pos h.1]

theorem lookups_stay {blanks : List Bytes} (h : ∀ blank ∈ blanks, blank = [] ∨ blank = Path.here) :
    lookups t followLast links loc (blanks ++ names) = lookups t followLast links loc names := by
  induction blanks with
  | nil => rfl
  | cons blank blanks ih =>
      rw [List.forall_mem_cons] at h
      rw [← ih h.2, lookups_eq_lookupsNames, lookups_eq_lookupsNames, List.cons_append,
        lookupsNames_stay h.1]

end

namespace Disk

/-! ## Calls that look -/

section

variable {d d' : Disk} {path : Bytes} {node : Node} {loc : Location}

theorem read_of_stat {data : Bytes} {mode : Nat} (h : d.stat path = .ok (.file mode data)) :
    d.read path = .ok data := by
  unfold stat at h
  unfold read
  split at h
  · rename_i found hfind
    cases h
    rw [hfind]
  · cases h

theorem read_eq_of_find_eq (h : d'.find true path = d.find true path) :
    d'.read path = d.read path := by
  rw [read, read, h]

theorem stat_eq_of_find_eq (h : d'.find true path = d.find true path) :
    d'.stat path = d.stat path := by
  rw [stat, stat, h]

theorem stat_eq_ok_iff :
    d.stat path = .ok node ↔ ∃ l, d.find true path = .ok (l, node) := by
  unfold stat
  cases hfind : d.find true path with
  | error reason => simp
  | ok found => simp [Prod.ext_iff]

theorem list_eq (h : d.find true path = .ok (loc, .folder)) :
    d.list path = .ok (d.tree.children loc) := by
  rw [list, h]

end

/-! ## Paths that are found through a place -/

/-- The locations that are looked up for a path, links followed. -/
def lookups (d : Disk) (path : Bytes) : List Location :=
  File.lookups d.tree true maxLinks (startOf d.cwd path) (Bytes.split Path.separator path)

/-- The path is found through the place: for it the place, or something below, is looked up. -/
def FoundThrough (d : Disk) (path : Bytes) (place : Location) : Prop :=
  ∃ l ∈ d.lookups path, place <+: l

instance (d : Disk) (path : Bytes) (place : Location) : Decidable (d.FoundThrough path place) :=
  inferInstanceAs (Decidable (∃ l ∈ d.lookups path, place <+: l))

/-- A name in the directory at a location is found through the place. -/
def EntryThrough (d : Disk) (loc : Location) (name : Bytes) (place : Location) : Prop :=
  ∃ l ∈ File.lookups d.tree true maxLinks loc [name], place <+: l

instance (d : Disk) (loc : Location) (name : Bytes) (place : Location) :
    Decidable (d.EntryThrough loc name place) :=
  inferInstanceAs (Decidable (∃ l ∈ File.lookups d.tree true maxLinks loc [name], place <+: l))

/-- In the directory at a location the name leads to the node, links followed. -/
def EntryLeads (d : Disk) (loc : Location) (name : Bytes) (node : Node) : Prop :=
  ∃ l, Walks d.tree true maxLinks loc .folder [name] (.present l node)

/-- The disks have the same at every location that is neither the place nor below it. -/
structure SameOutside (d d' : Disk) (place : Location) : Prop where
  cwd : d'.cwd = d.cwd
  nodes : ∀ l, ¬ place <+: l → d'.tree.node? l = d.tree.node? l

variable {d d' : Disk} {path dir name : Bytes} {place loc l : Location} {node : Node}

/-- A path that is not found through the place leads to the same on both disks. -/
theorem SameOutside.find_eq (h : d.SameOutside d' place) (hpath : ¬ d.FoundThrough path place) :
    d'.find true path = d.find true path := by
  have hwalk : walk d'.tree true maxLinks (startOf d'.cwd path) (Bytes.split Path.separator path) =
      walk d.tree true maxLinks (startOf d.cwd path) (Bytes.split Path.separator path) := by
    rw [h.cwd]
    apply walk_congr
    intro l hl
    exact h.nodes l fun hbelow => hpath ⟨l, hl, hbelow⟩
  rw [find, find, locate, locate, hwalk]

theorem SameOutside.refl (d : Disk) (place : Location) : d.SameOutside d place :=
  ⟨rfl, fun _ _ => rfl⟩

theorem SameOutside.put (h : d.SameOutside d' place) (hloc : place <+: loc) :
    d.SameOutside { d' with tree := d'.tree.put loc node } place where
  cwd := h.cwd
  nodes l hl := by
    have hne : l ≠ loc := fun heq => hl (heq ▸ hloc)
    exact (Tree.node?_put_of_ne hne).trans (h.nodes l hl)

theorem SameOutside.erase (h : d.SameOutside d' place) (hloc : place <+: loc) :
    d.SameOutside { d' with tree := d'.tree.erase loc } place where
  cwd := h.cwd
  nodes l hl := by
    have hne : l ≠ loc := fun heq => hl (heq ▸ hloc)
    exact (Tree.node?_erase_of_ne hne).trans (h.nodes l hl)

/-- For a name that does not stand for a link nothing but its own place is looked up. -/
theorem EntryThrough.of_not_link (h : d.EntryThrough loc name place)
    (hnode : d.tree.node? (loc ++ [name]) = some node) (hlink : ∀ target, node ≠ .link target) :
    place <+: loc ++ [name] := by
  obtain ⟨l, hl, hbelow⟩ := h
  rw [lookups_eq_lookupsNames, lookupsNames, hnode] at hl
  split at hl
  · simp at hl
  split at hl
  · simp [lookupsNames] at hl
  split at hl
  · simp [lookupsNames] at hl
  split at hl
  · simp at hl
  · cases node with
    | link target => exact absurd rfl (hlink target)
    | file mode content | folder | special => exact List.mem_singleton.mp hl ▸ hbelow

/-! ## Names in a directory whose path is cleaned -/

theorem startOf_clean (cwd : Location) (path : Bytes) :
    startOf cwd (Path.clean path) = startOf cwd path := by
  rw [startOf, startOf, Path.isAbsolute_clean_eq]

theorem lookups_clean :
    d.lookups (Path.clean path) =
      File.lookups d.tree true maxLinks (startOf d.cwd path) (Path.names path) := by
  obtain ⟨blanks, hsplit, hblanks⟩ := Path.exists_split_clean path
  rw [lookups, startOf_clean, hsplit, lookups_stay hblanks]

theorem walks_of_find_clean (h : d.find true (Path.clean path) = .ok (loc, node)) :
    Walks d.tree true maxLinks (startOf d.cwd path) .folder (Path.names path)
      (.present loc node) := by
  obtain ⟨blanks, hsplit, hblanks⟩ := Path.exists_split_clean path
  have hwalks := (locate_eq_ok_iff.mp (find_eq_ok_iff.mp h)).2
  rw [startOf_clean, hsplit, ← walk_eq_ok_iff, walk_stay hblanks, walk_eq_ok_iff] at hwalks
  exact hwalks

/-- What is found under a name joined to a directory is what the name leads to in it. -/
theorem entryLeads_of_find_join (hdir : d.find true (Path.clean dir) = .ok (loc, .folder))
    (hname : IsName name) (h : d.find true (Path.join dir name) = .ok (l, node)) :
    d.EntryLeads loc name node := by
  obtain ⟨path, hjoin, hnames, hroot⟩ := Path.exists_join dir hname
  rw [hjoin] at h
  have hpath := walks_of_find_clean h
  rw [startOf, hroot, ← startOf] at hpath
  obtain ⟨mid, found, hfirst, hlast⟩ := hpath.split (List.cons_ne_nil name []) hnames
  cases hfirst.unique (walks_of_find_clean hdir)
  exact ⟨l, hlast⟩

theorem EntryLeads.unique {node' : Node} (h : d.EntryLeads loc name node)
    (h' : d.EntryLeads loc name node') : node = node' := by
  obtain ⟨l, hwalks⟩ := h
  obtain ⟨l', hwalks'⟩ := h'
  cases hwalks.unique hwalks'
  rfl

/-- A name joined to a directory is found through a place only if the directory or the name in it is. -/
theorem foundThrough_join (hdir : d.find true (Path.clean dir) = .ok (loc, .folder))
    (hname : IsName name) (h : d.FoundThrough (Path.join dir name) place) :
    d.FoundThrough (Path.clean dir) place ∨ d.EntryThrough loc name place := by
  obtain ⟨path, hjoin, hnames, hroot⟩ := Path.exists_join dir hname
  obtain ⟨l, hl, hbelow⟩ := h
  rw [hjoin, lookups_clean, startOf, hroot, ← startOf, hnames, lookups_eq_lookupsNames] at hl
  rcases (walks_of_find_clean hdir).mem_lookups_append hl with hl | ⟨found, htarget, hl⟩
  · rw [← lookups_eq_lookupsNames, ← lookups_clean] at hl
    exact .inl ⟨l, hl, hbelow⟩
  · cases htarget
    rw [Target.loc, ← lookups_eq_lookupsNames] at hl
    exact .inr ⟨l, hl, hbelow⟩

end Disk

end RpcBindings.File
