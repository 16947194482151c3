import RpcBindings.Proofs.Association
import RpcBindings.Proofs.Path.Clean

/-!
# Where paths lead

What a path leads to hangs on the tree.  Four facts say how.  A path that ends in a name leads to a
location that ends in this name, and what is found there is what stands there.  In a tree that has
grown, the path leads to the same location.  A new file changes where a path leads only if it is itself
what the path leads to, since no path goes on behind a file.  And a file that is put where a path leads
is found under the path, unless it takes the place of a link.
-/

set_option autoImplicit false

namespace RpcBindings.File

open RpcBindings.Path (IsName EndsIn)

/-! ## Nodes of a changed tree -/

namespace Tree

variable {t : Tree} {loc l : Location} {node : Node}

theorem node?_of_ne_nil (h : loc ≠ []) : t.node? loc = t.entries.lookup loc := by
  cases loc with
  | nil => exact absurd rfl h
  | cons name loc => rfl

theorem node?_erase_of_ne (h : l ≠ loc) : (t.erase loc).node? l = t.node? l := by
  cases l with
  | nil => rfl
  | cons name l => exact Association.lookup_filter_of_ne h

theorem node?_erase_self (h : loc ≠ []) : (t.erase loc).node? loc = none := by
  rw [node?_of_ne_nil h]
  exact Association.lookup_filter_self t.entries loc

theorem node?_put_of_ne (h : l ≠ loc) : (t.put loc node).node? l = t.node? l := by
  cases l with
  | nil => rfl
  | cons name l =>
      show ((t.erase loc).entries ++ [(loc, node)]).lookup (name :: l) = t.entries.lookup (name :: l)
      rw [List.lookup_append, List.lookup_cons, beq_false_of_ne h]
      exact Option.or_none.trans (Association.lookup_filter_of_ne h)

theorem node?_put_self (h : loc ≠ []) : (t.put loc node).node? loc = some node := by
  have herased : (t.erase loc).entries.lookup loc = none :=
    Association.lookup_filter_self t.entries loc
  rw [node?_of_ne_nil h, put, List.lookup_append, herased]
  simp

/-- Everything that stands in `t` stands in `t'`. -/
def Extends (t t' : Tree) : Prop := ∀ loc node, t.node? loc = some node → t'.node? loc = some node

/-- The trees differ at one location at most, where the second one has a file. -/
structure AddsFile (t t' : Tree) (loc : Location) : Prop where
  file : ∃ mode content, t'.node? loc = some (.file mode content)
  same : ∀ l, l ≠ loc → t'.node? l = t.node? l

end Tree

/-! ## Targets -/

namespace Target

/-- The location that a path leads to, whether something is there or not. -/
def loc : Target → Location
  | present loc _ => loc
  | absent parent name => parent ++ [name]

/-- The target says what stands at its location. -/
def Holds (t : Tree) : Target → Prop
  | present loc node => t.node? loc = some node
  | absent parent name => t.node? (parent ++ [name]) = none

theorem eq_present {t : Tree} {target : Target} {node : Node} (h : target.Holds t)
    (hnode : t.node? target.loc = some node) : target = .present target.loc node := by
  cases target with
  | present loc found =>
      have hfound : some found = some node := h.symm.trans hnode
      rw [Option.some.inj hfound]
      rfl
  | absent parent name => exact absurd (h.symm.trans hnode) (by simp)

end Target

/-! ## Walking -/

/-- The name stands for something in a directory, and is not too long. -/
structure Proper (name : Bytes) : Prop where
  ne_nil : name ≠ []
  ne_here : name ≠ Path.here
  ne_up : name ≠ Path.up
  length_le : name.length ≤ maxName

/-- Where names lead from a location with a node, when at most `links` links are followed. -/
inductive Walks (t : Tree) (followLast : Bool) :
    Nat → Location → Node → List Bytes → Target → Prop where
  | done {links : Nat} {loc : Location} {node : Node} :
      Walks t followLast links loc node [] (.present loc node)
  | stay {links : Nat} {loc : Location} {name : Bytes} {rest : List Bytes} {target : Target} :
      (name = [] ∨ name = Path.here) → Walks t followLast links loc .folder rest target →
      Walks t followLast links loc .folder (name :: rest) target
  | up {links : Nat} {loc : Location} {rest : List Bytes} {target : Target} :
      Walks t followLast links loc.dropLast .folder rest target →
      Walks t followLast links loc .folder (Path.up :: rest) target
  | missing {links : Nat} {loc : Location} {name : Bytes} :
      Proper name → t.node? (loc ++ [name]) = none →
      Walks t followLast links loc .folder [name] (.absent loc name)
  /-- A link at the end that is not followed. -/
  | keep {links : Nat} {loc : Location} {name path : Bytes} :
      Proper name → t.node? (loc ++ [name]) = some (.link path) → followLast = false →
      Walks t followLast links loc .folder [name] (.present (loc ++ [name]) (.link path))
  | follow {links : Nat} {loc : Location} {name path : Bytes} {rest : List Bytes} {target : Target} :
      Proper name → t.node? (loc ++ [name]) = some (.link path) → (rest = [] → followLast = true) →
      Walks t followLast links (startOf loc path) .folder (Bytes.split Path.separator path ++ rest)
        target →
      Walks t followLast (links + 1) loc .folder (name :: rest) target
  | enter {links : Nat} {loc : Location} {name : Bytes} {rest : List Bytes} {node : Node}
      {target : Target} :
      Proper name → t.node? (loc ++ [name]) = some node → (∀ path, node ≠ .link path) →
      Walks t followLast links (loc ++ [name]) node rest target →
      Walks t followLast links loc .folder (name :: rest) target

section

variable {t t' : Tree} {followLast : Bool} {links : Nat} {loc : Location} {node : Node}
  {names : List Bytes} {target : Target}

theorem walks_of_walkNames {follow : Location → List Bytes → Except Reason Target}
    (hfollow : ∀ loc name path rest target, Proper name →
      t.node? (loc ++ [name]) = some (.link path) → (rest = [] → followLast = true) →
      follow (startOf loc path) (Bytes.split Path.separator path ++ rest) = .ok target →
      Walks t followLast links loc .folder (name :: rest) target)
    (h : walkNames t followLast follow loc node names = .ok target) :
    Walks t followLast links loc node names target := by
  induction names generalizing loc node with
  | nil =>
      cases h
      exact .done
  | cons name rest ih =>
      rw [walkNames] at h
      split at h
      · cases h
      rename_i hfolder
      obtain rfl : node = .folder := by
        cases node <;> simp [Node.isFolder] at hfolder ⊢
      split at h
      · rename_i hstay
        exact .stay hstay (ih h)
      rename_i hstay
      split at h
      · rename_i hup
        subst hup
        exact .up (ih h)
      rename_i hup
      split at h
      · cases h
      rename_i hlength
      rw [not_or] at hstay
      have hproper : Proper name := ⟨hstay.1, hstay.2, hup, Nat.le_of_not_lt hlength⟩
      split at h
      · rename_i hnode
        split at h
        · rename_i hrest
          rw [List.isEmpty_iff] at hrest
          subst hrest
          cases h
          exact .missing hproper hnode
        · cases h
      · rename_i path hnode
        split at h
        · rename_i hlast
          simp only [Bool.and_eq_true, List.isEmpty_iff, Bool.not_eq_true'] at hlast
          obtain ⟨rfl, hlast⟩ := hlast
          cases h
          exact .keep hproper hnode hlast
        · rename_i hlast
          refine hfollow loc name path rest target hproper hnode ?_ h
          rintro rfl
          simpa using hlast
      · rename_i found hlink hnode
        exact .enter hproper hnode (fun path hpath => hlink path hpath) (ih h)

theorem walks_of_walk (h : walk t followLast links loc names = .ok target) :
    Walks t followLast links loc .folder names target := by
  induction links generalizing loc names target with
  | zero =>
      refine walks_of_walkNames ?_ h
      intro _ _ _ _ _ _ _ _ h
      cases h
  | succ links ih =>
      refine walks_of_walkNames ?_ h
      intro loc name path rest target hproper hnode hlast h
      exact .follow hproper hnode hlast (ih h)

/-- What is done with a link. -/
def followOf (t : Tree) (followLast : Bool) : Nat → Location → List Bytes → Except Reason Target
  | 0 => fun _ _ => .error .tooManyLinks
  | links + 1 => walk t followLast links

theorem walk_eq_walkNames :
    walk t followLast links loc names =
      walkNames t followLast (followOf t followLast links) loc .folder names := by
  cases links <;> rfl

theorem walkNames_proper {follow : Location → List Bytes → Except Reason Target} {name : Bytes}
    {rest : List Bytes} (h : Proper name) :
    walkNames t followLast follow loc .folder (name :: rest) =
      match t.node? (loc ++ [name]) with
      | none => if rest.isEmpty then .ok (.absent loc name) else .error .notFound
      | some (.link target) =>
          if rest.isEmpty && !followLast then .ok (.present (loc ++ [name]) (.link target))
          else follow (startOf loc target) (Bytes.split Path.separator target ++ rest)
      | some found => walkNames t followLast follow (loc ++ [name]) found rest := by
  rw [walkNames, if_neg (by simp [Node.isFolder]), if_neg (by simp [h.ne_nil, h.ne_here]),
    if_neg h.ne_up]
  exact if_neg (Nat.not_lt.mpr h.length_le)

theorem walkNames_of_walks (h : Walks t followLast links loc node names target) :
    walkNames t followLast (followOf t followLast links) loc node names = .ok target := by
  induction h with
  | done => rfl
  | stay hname _ ih =>
      rw [walkNames, if_neg (by simp [Node.isFolder]), if_pos hname]
      exact ih
  | up _ ih =>
      rw [walkNames, if_neg (by simp [Node.isFolder]), if_neg (by decide), if_pos rfl]
      exact ih
  | missing hproper hnode =>
      rw [walkNames_proper hproper, hnode]
      rfl
  | keep hproper hnode hlast =>
      rw [walkNames_proper hproper, hnode, hlast]
      rfl
  | @follow _ loc name path rest target hproper hnode hlast _ ih =>
      have hgo : (rest.isEmpty && !followLast) = false := by
        cases rest with
        | nil => simp [hlast rfl]
        | cons name rest => rfl
      rw [walkNames_proper hproper, hnode]
      simp only [hgo]
      exact walk_eq_walkNames.trans ih
  | @enter _ loc name rest node target hproper hnode hlink _ ih =>
      rw [walkNames_proper hproper, hnode]
      cases node with
      | link path => exact absurd rfl (hlink path)
      | file mode content | folder | special => exact ih

/-- A walk leads where the names do. -/
theorem walk_eq_ok_iff :
    walk t followLast links loc names = .ok target ↔
      Walks t followLast links loc .folder names target :=
  ⟨walks_of_walk, fun h => walk_eq_walkNames.trans (walkNames_of_walks h)⟩

/-! ## What a walk says about the tree -/

/-- The names lead to a location that ends in the last of them, and to what stands there. -/
theorem Walks.ends {last : Bytes} (hlast : IsName last) {parts : List Bytes}
    (h : Walks t false links loc node names target) (hnames : names = parts ++ [last]) :
    target.Holds t ∧ target.loc.getLast? = some last := by
  induction h generalizing parts with
  | done => exact absurd hnames.symm (by simp)
  | stay hname _ ih =>
      cases parts with
      | nil =>
          obtain ⟨rfl, _⟩ := List.cons.inj hnames
          rcases hname with rfl | rfl
          · exact absurd rfl hlast.ne_nil
          · exact absurd rfl hlast.ne_here
      | cons part parts => exact ih (List.cons.inj hnames).2
  | up _ ih =>
      cases parts with
      | nil => exact absurd (List.cons.inj hnames).1.symm hlast.ne_up
      | cons part parts => exact ih (List.cons.inj hnames).2
  | missing _ hnode =>
      cases parts with
      | nil =>
          obtain ⟨rfl, _⟩ := List.cons.inj hnames
          exact ⟨hnode, List.getLast?_concat⟩
      | cons part parts => exact absurd (List.cons.inj hnames).2.symm (by simp)
  | keep _ hnode _ =>
      cases parts with
      | nil =>
          obtain ⟨rfl, _⟩ := List.cons.inj hnames
          exact ⟨hnode, List.getLast?_concat⟩
      | cons part parts => exact absurd (List.cons.inj hnames).2.symm (by simp)
  | follow _ _ hrest _ ih =>
      cases parts with
      | nil => exact absurd (hrest (List.cons.inj hnames).2) (by decide)
      | cons part parts =>
          rw [(List.cons.inj hnames).2] at ih
          exact ih (List.append_assoc _ _ _).symm
  | enter _ hnode _ hwalks ih =>
      cases parts with
      | nil =>
          obtain ⟨rfl, rfl⟩ := List.cons.inj hnames
          cases hwalks
          exact ⟨hnode, List.getLast?_concat⟩
      | cons part parts => exact ih (List.cons.inj hnames).2

/-- Names that lead to something that is no link lead to it also when a link at the end is followed. -/
theorem Walks.follow_last {l : Location} {found : Node}
    (h : Walks t false links loc node names target) (htarget : target = .present l found)
    (hlink : ∀ path, found ≠ .link path) : Walks t true links loc node names target := by
  induction h with
  | done => exact .done
  | stay hname _ ih => exact .stay hname (ih htarget)
  | up _ ih => exact .up (ih htarget)
  | missing _ _ => cases htarget
  | keep _ _ _ =>
      cases htarget
      exact absurd rfl (hlink _)
  | follow hproper hnode _ _ ih => exact .follow hproper hnode (fun _ => rfl) (ih htarget)
  | enter hproper hnode hnolink _ ih => exact .enter hproper hnode hnolink (ih htarget)

/-- In a tree that has grown the names lead to the same location. -/
theorem Walks.extends (h : Walks t false links loc node names target) (ht : t.Extends t') :
    ∃ target', Walks t' false links loc node names target' ∧ target'.loc = target.loc := by
  induction h with
  | done => exact ⟨_, .done, rfl⟩
  | stay hname _ ih =>
      rcases ih with ⟨target', hwalks, hloc⟩
      exact ⟨target', .stay hname hwalks, hloc⟩
  | up _ ih =>
      rcases ih with ⟨target', hwalks, hloc⟩
      exact ⟨target', .up hwalks, hloc⟩
  | @missing _ loc name hproper _ =>
      -- Only here can the new tree have more to say: something stands at the name now.
      cases hnode : t'.node? (loc ++ [name]) with
      | none => exact ⟨_, .missing hproper hnode, rfl⟩
      | some found =>
          cases found with
          | link path => exact ⟨_, .keep hproper hnode rfl, rfl⟩
          | file mode content | folder | special =>
              exact ⟨_, .enter hproper hnode (by simp) .done, rfl⟩
  | keep hproper hnode hlast => exact ⟨_, .keep hproper (ht _ _ hnode) hlast, rfl⟩
  | follow hproper hnode hrest _ ih =>
      rcases ih with ⟨target', hwalks, hloc⟩
      exact ⟨target', .follow hproper (ht _ _ hnode) hrest hwalks, hloc⟩
  | enter hproper hnode hlink _ ih =>
      rcases ih with ⟨target', hwalks, hloc⟩
      exact ⟨target', .enter hproper (ht _ _ hnode) hlink hwalks, hloc⟩

/-- Names that do not lead to the new file lead where they did. -/
theorem Walks.without_file {place : Location} (h : Walks t' followLast links loc node names target)
    (ht : t.AddsFile t' place) (htarget : target.loc ≠ place) :
    Walks t followLast links loc node names target := by
  obtain ⟨mode, content, hfile⟩ := ht.file
  induction h with
  | done => exact .done
  | stay hname _ ih => exact .stay hname (ih htarget)
  | up _ ih => exact .up (ih htarget)
  | missing hproper hnode => exact .missing hproper ((ht.same _ htarget).symm.trans hnode)
  | keep hproper hnode hlast => exact .keep hproper ((ht.same _ htarget).symm.trans hnode) hlast
  | @follow _ loc name path rest target hproper hnode hrest _ ih =>
      have hne : loc ++ [name] ≠ place := by
        intro heq
        rw [heq, hfile] at hnode
        cases hnode
      exact .follow hproper ((ht.same _ hne).symm.trans hnode) hrest (ih htarget)
  | @enter _ loc name rest node target hproper hnode hlink hwalks ih =>
      have hne : loc ++ [name] ≠ place := by
        intro heq
        -- Behind a file no names can follow, so the file would be the target.
        rw [heq, hfile] at hnode
        cases hnode
        cases hwalks
        exact htarget heq
      exact .enter hproper ((ht.same _ hne).symm.trans hnode) hlink (ih htarget)

/-- Names that lead to a file, or to nothing, lead to the file that is put there.  A link is left out:
the way to it may go through the link itself, which is gone then. -/
theorem Walks.to_file {last : Bytes} (hlast : IsName last) {parts : List Bytes} {mode : Nat}
    {content : Bytes} (h : Walks t false links loc node names target) (hnames : names = parts ++ [last])
    (hfolder : t.node? target.loc ≠ some .folder)
    (hlink : ∀ path, t.node? target.loc ≠ some (.link path))
    (hfile : t'.node? target.loc = some (.file mode content))
    (hsame : ∀ l, l ≠ target.loc → t'.node? l = t.node? l) :
    Walks t' followLast links loc node names (.present target.loc (.file mode content)) := by
  induction h generalizing parts with
  | done => exact absurd hnames.symm (by simp)
  | stay hname _ ih =>
      cases parts with
      | nil =>
          obtain ⟨rfl, _⟩ := List.cons.inj hnames
          rcases hname with rfl | rfl
          · exact absurd rfl hlast.ne_nil
          · exact absurd rfl hlast.ne_here
      | cons part parts =>
          exact .stay hname (ih (List.cons.inj hnames).2 hfolder hlink hfile hsame)
  | up _ ih =>
      cases parts with
      | nil => exact absurd (List.cons.inj hnames).1.symm hlast.ne_up
      | cons part parts => exact .up (ih (List.cons.inj hnames).2 hfolder hlink hfile hsame)
  | missing hproper _ => exact .enter hproper hfile (by simp) .done
  | keep _ hnode _ => exact absurd hnode (hlink _)
  | @follow _ loc name path rest target hproper hnode hrest _ ih =>
      have hne : loc ++ [name] ≠ target.loc := by
        intro heq
        exact hlink path (heq ▸ hnode)
      cases parts with
      | nil => exact absurd (hrest (List.cons.inj hnames).2) (by decide)
      | cons part parts =>
          have hnames' := (List.cons.inj hnames).2
          have hparts : Bytes.split Path.separator path ++ rest =
              (Bytes.split Path.separator path ++ parts) ++ [last] := by
            rw [hnames', List.append_assoc]
            rfl
          refine .follow hproper ((hsame _ hne).trans hnode) ?_
            (ih hparts hfolder hlink hfile hsame)
          intro hnil
          exact absurd (hnames'.symm.trans hnil) (by simp)
  | @enter _ loc name rest node target hproper hnode hnolink hwalks ih =>
      cases parts with
      | nil =>
          obtain ⟨rfl, rfl⟩ := List.cons.inj hnames
          cases hwalks
          exact .enter hproper hfile (by simp) .done
      | cons part parts =>
          have hnames' := (List.cons.inj hnames).2
          -- The walk goes on behind this node, so it is a directory and not the target.
          have hne : loc ++ [name] ≠ target.loc := by
            intro heq
            rw [hnames'] at hwalks
            cases node with
            | folder => exact hfolder (heq ▸ hnode)
            | link path => exact hnolink path rfl
            | file mode content | special => cases parts <;> cases hwalks
          exact .enter hproper ((hsame _ hne).trans hnode) hnolink
            (ih hnames' hfolder hlink hfile hsame)

end

/-! ## Paths -/

namespace Disk

variable {d d' : Disk} {path : Bytes} {target : Target}

/-- The path can be given to a call. -/
def Callable (path : Bytes) : Prop := 0 ∉ path ∧ path ≠ [] ∧ path.length ≤ maxPath

theorem locate_eq_ok_iff {followLast : Bool} :
    d.locate followLast path = .ok target ↔ Callable path ∧
      Walks d.tree followLast maxLinks (startOf d.cwd path) .folder (Bytes.split Path.separator path)
        target := by
  rw [← walk_eq_ok_iff, locate, Callable]
  by_cases hzero : 0 ∈ path
  · simp [hzero]
  by_cases hempty : path = []
  · simp [hempty]
  by_cases hlength : path.length ≤ maxPath
  · simp [hzero, hempty, hlength, Nat.not_lt.mpr hlength]
  · simp [hzero, hempty, hlength, Nat.lt_of_not_le hlength]

theorem find_eq_ok_iff {followLast : Bool} {loc : Location} {node : Node} :
    d.find followLast path = .ok (loc, node) ↔
      d.locate followLast path = .ok (.present loc node) := by
  unfold find
  split <;> simp_all

/-- A path that ends in a name leads to a location that ends in it, and to what stands there. -/
theorem locate_ends {name : Bytes} (h : d.locate false path = .ok target) (hpath : EndsIn path name)
    (hname : IsName name) : target.Holds d.tree ∧ target.loc.getLast? = some name := by
  obtain ⟨parts, hparts⟩ := hpath.split hname
  exact (locate_eq_ok_iff.mp h).2.ends hname hparts

/-- What a path leads to and is no link is found also when a link at the end is followed. -/
theorem find_follow_last {loc : Location} {node : Node} (h : d.find false path = .ok (loc, node))
    (hlink : ∀ path, node ≠ .link path) : d.find true path = .ok (loc, node) := by
  obtain ⟨hcallable, hwalks⟩ := locate_eq_ok_iff.mp (find_eq_ok_iff.mp h)
  exact find_eq_ok_iff.mpr (locate_eq_ok_iff.mpr ⟨hcallable, hwalks.follow_last rfl hlink⟩)

/-- On a disk that has grown a path leads to the same location. -/
theorem locate_extends (h : d.locate false path = .ok target) (hcwd : d'.cwd = d.cwd)
    (ht : d.tree.Extends d'.tree) :
    ∃ target', d'.locate false path = .ok target' ∧ target'.loc = target.loc := by
  obtain ⟨hcallable, hwalks⟩ := locate_eq_ok_iff.mp h
  obtain ⟨target', hwalks', hloc⟩ := hwalks.extends ht
  exact ⟨target', locate_eq_ok_iff.mpr ⟨hcallable, hcwd ▸ hwalks'⟩, hloc⟩

/-- A path that does not lead to the new file leads where it did. -/
theorem locate_without_file {followLast : Bool} {place : Location}
    (h : d'.locate followLast path = .ok target) (hcwd : d'.cwd = d.cwd)
    (ht : d.tree.AddsFile d'.tree place) (htarget : target.loc ≠ place) :
    d.locate followLast path = .ok target := by
  obtain ⟨hcallable, hwalks⟩ := locate_eq_ok_iff.mp h
  exact locate_eq_ok_iff.mpr ⟨hcallable, hcwd ▸ hwalks.without_file ht htarget⟩

end Disk

end RpcBindings.File
