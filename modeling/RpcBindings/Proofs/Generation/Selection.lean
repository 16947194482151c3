import RpcBindings.Proofs.File.Lookups
import RpcBindings.Proofs.Generation.Loading
import RpcBindings.Proofs.Glob.Reach

/-!
# Which files a schema is made of (SPEC §4.4)

A schema is loaded from the regular files of a directory whose names the pattern admits, in increasing
order of the names, and nothing else in the directory counts: no directory, pipe or device, no link to
one of these, and no entry with another name.  So two directories that differ in an entry that is passed
over, and in what stands below it, give the same outcome, as long as nothing that is looked up is found
through the place where they differ, the directory itself included.

An entry is looked up under the path of the directory with its name joined to it, which is cleaned as
text.  The directories here are those whose cleaned path leads where their path does.
-/

set_option autoImplicit false

namespace RpcBindings

/-! ## Patterns that can be read -/

namespace Glob

/-- Every chunk of the pattern can be read. -/
def WellFormed (pattern : Bytes) : Prop :=
  ∀ chunk ∈ chunks pattern, (tokens? chunk.text).isSome = true

/-- A pattern that can be read gives an answer for every name. -/
theorem WellFormed.exists_matches? {pattern : Bytes} (h : WellFormed pattern) (name : Bytes) :
    ∃ answer, matches? pattern name = .ok answer := by
  refine (forall_matches?_ok_iff pattern).mpr ?_ name
  rintro ⟨before, bad, after, hchunks, hbad, -⟩
  have hread := h bad (by simp [hchunks])
  rw [hbad] at hread
  cases hread

end Glob

namespace Generation

open RpcBindings.File (Disk Location Node Walks maxLinks)

variable {d d' : Disk} {dir pattern name : Bytes} {node : Node} {loc : Location}

/-- The pattern is empty or matches the name. -/
def Admits (pattern name : Bytes) : Prop := pattern = [] ∨ Glob.matches? pattern name = .ok true

theorem takes_eq_true_iff : takes pattern name = .ok true ↔ Admits pattern name := by
  unfold takes Admits
  by_cases hempty : pattern = []
  · simp [hempty]
  · simp only [hempty, if_false, false_or]
    cases Glob.matches? pattern name with
    | error fault => simp
    | ok answer => simp

/-- The pattern is empty or can be read. -/
def Usable (pattern : Bytes) : Prop := pattern = [] ∨ Glob.WellFormed pattern

theorem Usable.takes_of_not_admits (h : Usable pattern) (hname : ¬ Admits pattern name) :
    takes pattern name = .ok false := by
  have hne : pattern ≠ [] := fun hempty => hname (.inl hempty)
  obtain ⟨answer, hanswer⟩ := (h.resolve_left hne).exists_matches? name
  cases answer with
  | true => exact absurd (.inr hanswer) hname
  | false => simp [takes, hne, hanswer]

/-! ## One entry of a directory -/

/-- The entry of the directory is looked up: it is not a directory, and the pattern admits its name. -/
structure Candidate (d : Disk) (loc : Location) (pattern name : Bytes) : Prop where
  entry : ∃ node, d.tree.node? (loc ++ [name]) = some node ∧ node ≠ .folder
  admitted : Admits pattern name

theorem schemaFile?_of_admits (hnode : node ≠ .folder) (hname : Admits pattern name) :
    schemaFile? d dir pattern name node =
      match d.stat (Path.join dir name) with
      | .error fault =>
          .error (Failure.classify Code.io (Path.join dir name) (.file fault)
            "failed to stat schema")
      | .ok found => .ok (if found.isFile then some (Path.join dir name) else none) := by
  rw [schemaFile?, Node.isFolder_eq_false_iff.mpr hnode, takes_eq_true_iff.mpr hname]
  rfl

theorem schemaFile?_of_passed (h : Usable pattern) (hpassed : node = .folder ∨ ¬ Admits pattern name) :
    schemaFile? d dir pattern name node = .ok none := by
  rw [schemaFile?]
  rcases hpassed with rfl | hname
  · rfl
  · rw [h.takes_of_not_admits hname]
    split <;> rfl

/-- A file is selected only if the pattern admits an entry that is looked up as this file. -/
theorem of_schemaFile?_eq_some {file : Bytes} (h : Usable pattern)
    (hfile : schemaFile? d dir pattern name node = .ok (some file)) :
    node ≠ .folder ∧ Admits pattern name ∧ file = Path.join dir name := by
  by_cases hpassed : node = .folder ∨ ¬ Admits pattern name
  · rw [schemaFile?_of_passed h hpassed] at hfile
    cases hfile
  · rw [not_or, not_not] at hpassed
    obtain ⟨hnode, hname⟩ := hpassed
    rw [schemaFile?_of_admits hnode hname] at hfile
    refine ⟨hnode, hname, ?_⟩
    split at hfile
    · cases hfile
    · split at hfile
      · exact (Option.some.inj (Except.ok.inj hfile)).symm
      · cases hfile

/-- The name of an entry and the content of its file, if the entry is selected. -/
def chosen? (d : Disk) (dir pattern : Bytes) (e : Bytes × Node) : Option (Bytes × Bytes) :=
  if e.2.isFolder then none
  else
    match takes pattern e.1, d.stat (Path.join dir e.1) with
    | .ok true, .ok (.file _ data) => some (e.1, data)
    | _, _ => none

theorem chosen?_eq_some_iff {e : Bytes × Node} {f : Bytes × Bytes} :
    chosen? d dir pattern e = some f ↔
      f.1 = e.1 ∧ e.2 ≠ .folder ∧ Admits pattern e.1 ∧
        ∃ mode, d.stat (Path.join dir e.1) = .ok (.file mode f.2) := by
  obtain ⟨name, node⟩ := e
  obtain ⟨chosen, data⟩ := f
  rw [chosen?, ← takes_eq_true_iff, ← Node.isFolder_eq_false_iff]
  constructor
  · intro h
    split at h
    · cases h
    · rename_i hfolder
      split at h
      · rename_i mode content htakes hstat
        cases h
        exact ⟨rfl, Bool.eq_false_iff.mpr hfolder, htakes, mode, hstat⟩
      · cases h
  · rintro ⟨rfl, hfolder, htakes, mode, hstat⟩
    simp only [hfolder, htakes, hstat]
    rfl

/-- An entry gives the path of its file if it is selected, once what is looked up is there. -/
theorem schemaFile?_eq (h : Usable pattern) {e : Bytes × Node}
    (hfound : e.2 ≠ .folder → Admits pattern e.1 →
      ∃ found, d.stat (Path.join dir e.1) = .ok found) :
    schemaFile? d dir pattern e.1 e.2 =
      .ok ((chosen? d dir pattern e).map fun f => Path.join dir f.1) := by
  by_cases hpassed : e.2 = .folder ∨ ¬ Admits pattern e.1
  · have hnone : chosen? d dir pattern e = none := by
      rw [Option.eq_none_iff_forall_ne_some]
      intro f hf
      obtain ⟨-, hnode, hname, -⟩ := chosen?_eq_some_iff.mp hf
      exact hpassed.elim hnode fun hnot => hnot hname
    rw [schemaFile?_of_passed h hpassed, hnone]
    rfl
  · rw [not_or, not_not] at hpassed
    obtain ⟨hnode, hname⟩ := hpassed
    obtain ⟨found, hstat⟩ := hfound hnode hname
    rw [schemaFile?_of_admits hnode hname, chosen?, Node.isFolder_eq_false_iff.mpr hnode,
      takes_eq_true_iff.mpr hname, hstat]
    cases found <;> rfl

/-! ## All entries of a directory -/

theorem selectFiles_eq (h : Usable pattern) {entries : List (Bytes × Node)}
    (hfound : ∀ e ∈ entries, e.2 ≠ .folder → Admits pattern e.1 →
      ∃ found, d.stat (Path.join dir e.1) = .ok found) :
    selectFiles d dir pattern entries =
      .ok ((entries.filterMap (chosen? d dir pattern)).map fun f => Path.join dir f.1) := by
  induction entries with
  | nil => rfl
  | cons e entries ih =>
      rw [List.forall_mem_cons] at hfound
      obtain ⟨name, node⟩ := e
      simp only [selectFiles, schemaFile?_eq h hfound.1, ih hfound.2]
      cases hchosen : chosen? d dir pattern (name, node) with
      | none => simp [hchosen]
      | some f => simp [hchosen]

theorem mem_of_selectFiles {entries : List (Bytes × Node)} {files : List Bytes} {file : Bytes}
    (h : selectFiles d dir pattern entries = .ok files) (hfile : file ∈ files) :
    ∃ e ∈ entries, schemaFile? d dir pattern e.1 e.2 = .ok (some file) := by
  induction entries generalizing files with
  | nil =>
      cases h
      simp at hfile
  | cons e entries ih =>
      obtain ⟨name, node⟩ := e
      rw [selectFiles] at h
      split at h
      · cases h
      rename_i file? hfile?
      split at h
      · cases h
      rename_i others hothers
      cases h
      rcases List.mem_append.mp hfile with hfile | hfile
      · rw [Option.mem_toList.mp hfile] at hfile?
        exact ⟨(name, node), List.mem_cons_self, hfile?⟩
      · obtain ⟨e, he, hsome⟩ := ih hothers hfile
        exact ⟨e, List.mem_cons_of_mem _ he, hsome⟩

/-- Entries that give no file can be left out. -/
theorem selectFiles_filter {p : Bytes × Node → Bool} {entries : List (Bytes × Node)}
    (h : ∀ e ∈ entries, p e = false → schemaFile? d dir pattern e.1 e.2 = .ok none) :
    selectFiles d dir pattern (entries.filter p) = selectFiles d dir pattern entries := by
  induction entries with
  | nil => rfl
  | cons e entries ih =>
      rw [List.forall_mem_cons] at h
      obtain ⟨name, node⟩ := e
      cases hp : p (name, node) with
      | true =>
          rw [List.filter_cons_of_pos hp]
          simp only [selectFiles, ih h.2]
      | false =>
          rw [List.filter_cons_of_neg (by simp [hp]), ih h.2]
          simp only [selectFiles, h.1 hp]
          cases selectFiles d dir pattern entries <;> rfl

theorem selectFiles_congr {entries : List (Bytes × Node)}
    (h : ∀ e ∈ entries, schemaFile? d' dir pattern e.1 e.2 = schemaFile? d dir pattern e.1 e.2) :
    selectFiles d' dir pattern entries = selectFiles d dir pattern entries := by
  induction entries with
  | nil => rfl
  | cons e entries ih =>
      rw [List.forall_mem_cons] at h
      obtain ⟨name, node⟩ := e
      simp only [selectFiles, h.1, ih h.2]

theorem addFiles_congr {allowance : Allowance} {schema : Schema} {files : List Bytes}
    (h : ∀ file ∈ files, d'.read file = d.read file) :
    addFiles d' allowance schema files = addFiles d allowance schema files := by
  induction files generalizing allowance schema with
  | nil => rfl
  | cons file files ih =>
      rw [List.forall_mem_cons] at h
      simp only [addFiles, h.1, ih h.2]

/-! ## What the files give -/

/-- The file with its content gives the document. -/
def Gives (dir : Bytes) (f : Bytes × Bytes) (document : Document) : Prop :=
  (readDocument .unlimited (Path.join dir f.1) f.2).1 = .ok document

theorem gives_iff {f : Bytes × Bytes} {document : Document} :
    Gives dir f document ↔ Document.read (Path.join dir f.1) f.2 = .ok document := by
  unfold Gives readDocument
  cases Document.read (Path.join dir f.1) f.2 with
  | error v => simp [Allowance.check]
  | ok found => simp [Allowance.check]

theorem Gives.file_eq {f : Bytes × Bytes} {document : Document} (h : Gives dir f document) :
    document.file = Path.join dir f.1 := by
  have hread := gives_iff.mp h
  unfold Document.read at hread
  split at hread
  · cases hread
  · split at hread
    · cases hread
    · cases hread
      rfl

theorem map_file_of_gives {files : List (Bytes × Bytes)} {documents : List Document}
    (h : List.Forall₂ (Gives dir) files documents) :
    documents.map Document.file = files.map fun f => Path.join dir f.1 := by
  induction h with
  | nil => rfl
  | cons hgives _ ih => rw [List.map_cons, List.map_cons, hgives.file_eq, ih]

/-- One file adds the document it gives, and a run that is never stopped goes on. -/
theorem addFiles_cons_of_gives {schema : Schema} {f : Bytes × Bytes} {document : Document}
    {files : List Bytes} (hread : d.read (Path.join dir f.1) = .ok f.2) (h : Gives dir f document) :
    addFiles d .unlimited schema (Path.join dir f.1 :: files) =
      addFiles d .unlimited (schema.addDocument document) files := by
  have hdocument : readDocument .unlimited (Path.join dir f.1) f.2 = (.ok document, .unlimited) := by
    simp [readDocument, Allowance.check, gives_iff.mp h]
  simp only [addFiles, hread, hdocument]

theorem addFiles_of_gives {schema : Schema} {files : List (Bytes × Bytes)}
    {documents : List Document} {rest : List Bytes}
    (hread : ∀ f ∈ files, d.read (Path.join dir f.1) = .ok f.2)
    (h : List.Forall₂ (Gives dir) files documents) :
    addFiles d .unlimited schema (files.map (fun f => Path.join dir f.1) ++ rest) =
      addFiles d .unlimited (documents.foldl Schema.addDocument schema) rest := by
  induction h generalizing schema with
  | nil => rfl
  | @cons f document files documents hgives _ ih =>
      rw [List.forall_mem_cons] at hread
      rw [List.map_cons, List.cons_append, addFiles_cons_of_gives hread.1 hgives, ih hread.2]
      rfl

/-- A file that gives no document ends the run with its failure. -/
theorem addFiles_cons_of_error {schema : Schema} {file data : Bytes} {f : Failure}
    {files : List Bytes} (hread : d.read file = .ok data)
    (h : (readDocument .unlimited file data).1 = .error f) :
    addFiles d .unlimited schema (file :: files) =
      (.error (Failure.classify Code.schema file f []), .unlimited) := by
  have hleft : (readDocument .unlimited file data).2 = .unlimited := by
    unfold readDocument
    simp only [Allowance.check]
    split <;> rfl
  have hdocument : readDocument .unlimited file data = (.error f, .unlimited) := Prod.ext h hleft
  simp only [addFiles, hread, hdocument]

/-! ## What is selected -/

/-- The entry is found under the path of the directory with its name joined to it. -/
def Found (d : Disk) (dir name : Bytes) : Prop := ∃ found, d.stat (Path.join dir name) = .ok found

theorem stat_join_iff (htree : d.tree.WellFormed)
    (hclean : d.find true (Path.clean dir) = .ok (loc, .folder)) (hfound : Found d dir name)
    (hname : Candidate d loc pattern name) :
    d.stat (Path.join dir name) = .ok node ↔ d.EntryLeads loc name node := by
  obtain ⟨entry, hentry, -⟩ := hname.entry
  have hleads : ∀ {found}, d.stat (Path.join dir name) = .ok found → d.EntryLeads loc name found := by
    intro found hstat
    obtain ⟨l, hfind⟩ := File.Disk.stat_eq_ok_iff.mp hstat
    exact File.Disk.entryLeads_of_find_join hclean (htree.isName_of_node? hentry) hfind
  refine ⟨hleads, ?_⟩
  intro hnode
  obtain ⟨found, hstat⟩ := hfound
  rw [hstat, (hleads hstat).unique hnode]

/-- The names of the selected files with their contents, in increasing order of the names. -/
structure Selects (d : Disk) (loc : Location) (pattern : Bytes) (files : List (Bytes × Bytes)) :
    Prop where
  increasing : files.Pairwise fun a b => a.1 < b.1
  mem_iff : ∀ name data, (name, data) ∈ files ↔
    Candidate d loc pattern name ∧ ∃ mode, d.EntryLeads loc name (.file mode data)

theorem exists_selects (htree : d.tree.WellFormed) (h : Usable pattern)
    (hdir : d.find true dir = .ok (loc, .folder))
    (hclean : d.find true (Path.clean dir) = .ok (loc, .folder))
    (hfound : ∀ name, Candidate d loc pattern name → Found d dir name) :
    ∃ files, Selects d loc pattern files ∧
      (∀ f ∈ files, d.read (Path.join dir f.1) = .ok f.2) ∧
      schemaFiles d dir pattern = .ok (files.map fun f => Path.join dir f.1) := by
  refine ⟨(d.tree.children loc).filterMap (chosen? d dir pattern), ⟨?_, ?_⟩, ?_, ?_⟩
  · refine List.Pairwise.filterMap _ ?_ (htree.children_increasing loc)
    intro a b hab f hf g hg
    rw [(chosen?_eq_some_iff.mp hf).1, (chosen?_eq_some_iff.mp hg).1]
    exact hab
  · intro name data
    rw [List.mem_filterMap]
    constructor
    · rintro ⟨⟨_, node⟩, he, hchosen⟩
      obtain ⟨rfl, hnode, hname, mode, hstat⟩ := chosen?_eq_some_iff.mp hchosen
      have hcandidate : Candidate d loc pattern _ := ⟨⟨node, htree.mem_children_iff.mp he, hnode⟩, hname⟩
      exact ⟨hcandidate, mode, (stat_join_iff htree hclean ⟨_, hstat⟩ hcandidate).mp hstat⟩
    · rintro ⟨hcandidate, mode, hleads⟩
      have hstat := (stat_join_iff htree hclean (hfound name hcandidate) hcandidate).mpr hleads
      obtain ⟨⟨node, hentry, hnode⟩, hname⟩ := hcandidate
      exact ⟨(name, node), htree.mem_children_iff.mpr hentry,
        chosen?_eq_some_iff.mpr ⟨rfl, hnode, hname, mode, hstat⟩⟩
  · intro f hf
    obtain ⟨e, -, hchosen⟩ := List.mem_filterMap.mp hf
    obtain ⟨hname, -, -, mode, hstat⟩ := chosen?_eq_some_iff.mp hchosen
    rw [hname]
    exact File.Disk.read_of_stat hstat
  · rw [schemaFiles, File.Disk.list_eq hdir]
    apply selectFiles_eq h
    rintro ⟨name, node⟩ he hnode hname
    exact hfound name ⟨⟨node, htree.mem_children_iff.mp he, hnode⟩, hname⟩

/-! ## Entries that do not count -/

/-- Whatever has the name is passed over: nothing has it, or a directory, or the pattern does not admit
it, or what is found there, links followed, is no regular file. -/
def PassedOver (d : Disk) (loc : Location) (dir pattern name : Bytes) : Prop :=
  Candidate d loc pattern name →
    ∃ found, d.stat (Path.join dir name) = .ok found ∧ found.isFile = false

theorem passedOver_of_none (h : d.tree.node? (loc ++ [name]) = none) :
    PassedOver d loc dir pattern name := by
  rintro ⟨⟨node, hentry, -⟩, -⟩
  exact absurd (h.symm.trans hentry) (by simp)

theorem passedOver_of_folder (h : d.tree.node? (loc ++ [name]) = some .folder) :
    PassedOver d loc dir pattern name := by
  rintro ⟨⟨node, hentry, hnode⟩, -⟩
  exact absurd (Option.some.inj (h.symm.trans hentry)).symm hnode

/-- No other entry that is looked up is found through the one with the name. -/
def Apart (d : Disk) (loc : Location) (dir pattern name : Bytes) : Prop :=
  ∀ other, other ≠ name → Candidate d loc pattern other →
    ¬ d.FoundThrough (Path.join dir other) (loc ++ [name])

theorem PassedOver.schemaFile?_eq_none (h : Usable pattern)
    (hpassed : PassedOver d loc dir pattern name) (hentry : d.tree.node? (loc ++ [name]) = some node) :
    schemaFile? d dir pattern name node = .ok none := by
  by_cases hout : node = .folder ∨ ¬ Admits pattern name
  · exact schemaFile?_of_passed h hout
  · rw [not_or, not_not] at hout
    obtain ⟨found, hstat, hfile⟩ := hpassed ⟨⟨node, hentry, hout.1⟩, hout.2⟩
    rw [schemaFile?_of_admits hout.1 hout.2, hstat]
    simp only [hfile]
    rfl

theorem selectFiles_children_filter (htree : d.tree.WellFormed) (h : Usable pattern)
    (hpassed : PassedOver d loc dir pattern name) :
    selectFiles d dir pattern ((d.tree.children loc).filter fun e => e.1 ≠ name) =
      selectFiles d dir pattern (d.tree.children loc) := by
  apply selectFiles_filter
  rintro ⟨other, node⟩ he hother
  obtain rfl : other = name := by simpa using hother
  exact hpassed.schemaFile?_eq_none h (htree.mem_children_iff.mp he)

section

variable (htree : d.tree.WellFormed) (htree' : d'.tree.WellFormed) (h : Usable pattern)
  (hsame : d.SameOutside d' (loc ++ [name])) (hdir : d.find true dir = .ok (loc, .folder))
  (hthrough : ¬ d.FoundThrough dir (loc ++ [name])) (hapart : Apart d loc dir pattern name)
  (hpassed : PassedOver d loc dir pattern name) (hpassed' : PassedOver d' loc dir pattern name)

include htree htree' h hsame hdir hthrough hapart hpassed hpassed'

theorem schemaFiles_eq_of_sameOutside : schemaFiles d' dir pattern = schemaFiles d dir pattern := by
  have hdir' : d'.find true dir = .ok (loc, .folder) := (hsame.find_eq hthrough).trans hdir
  have hchildren := htree.children_filter_eq htree' fun other hother =>
    hsame.nodes _ (File.not_prefix_of_ne hother)
  rw [schemaFiles, schemaFiles, File.Disk.list_eq hdir, File.Disk.list_eq hdir']
  show selectFiles d' dir pattern (d'.tree.children loc) =
    selectFiles d dir pattern (d.tree.children loc)
  rw [← selectFiles_children_filter htree h hpassed, ← selectFiles_children_filter htree' h hpassed',
    hchildren]
  apply selectFiles_congr
  rintro ⟨other, node⟩ he
  obtain ⟨he, hother⟩ := List.mem_filter.mp he
  by_cases hout : node = .folder ∨ ¬ Admits pattern other
  · rw [schemaFile?_of_passed h hout, schemaFile?_of_passed h hout]
  · rw [not_or, not_not] at hout
    have hcandidate : Candidate d loc pattern other :=
      ⟨⟨node, htree.mem_children_iff.mp he, hout.1⟩, hout.2⟩
    have hfind := hsame.find_eq (hapart other (by simpa using hother) hcandidate)
    rw [schemaFile?_of_admits hout.1 hout.2, schemaFile?_of_admits hout.1 hout.2,
      File.Disk.stat_eq_of_find_eq hfind]

/-- Directories that differ in entries that are passed over give the same outcome. -/
theorem load_eq_of_sameOutside (allowance : Allowance) :
    load d' allowance dir pattern = load d allowance dir pattern := by
  have hselected : schemaFiles d' dir pattern = schemaFiles d dir pattern :=
    schemaFiles_eq_of_sameOutside htree htree' h hsame hdir hthrough hapart hpassed hpassed'
  rw [load, load, hselected]
  cases hfiles : schemaFiles d dir pattern with
  | error f => rfl
  | ok files =>
      apply addFiles_congr
      intro file hfile
      rw [schemaFiles, File.Disk.list_eq hdir] at hfiles
      obtain ⟨⟨other, node⟩, he, hsome⟩ := mem_of_selectFiles hfiles hfile
      obtain ⟨hnode, hname, rfl⟩ := of_schemaFile?_eq_some h hsome
      have hentry := htree.mem_children_iff.mp he
      have hother : other ≠ name := by
        rintro rfl
        rw [hpassed.schemaFile?_eq_none h hentry] at hsome
        cases hsome
      have hcandidate : Candidate d loc pattern other := ⟨⟨node, hentry, hnode⟩, hname⟩
      exact File.Disk.read_eq_of_find_eq (hsame.find_eq (hapart other hother hcandidate))

end

/-! ## Entries that are found through another one -/

/-- If the directory is not found through the entry, only links can be. -/
theorem apart_of_links (htree : d.tree.WellFormed)
    (hclean : d.find true (Path.clean dir) = .ok (loc, .folder))
    (hthrough : ¬ d.FoundThrough (Path.clean dir) (loc ++ [name]))
    (hlinks : ∀ other target, other ≠ name → Admits pattern other →
      d.tree.node? (loc ++ [other]) = some (.link target) →
      ¬ d.EntryThrough loc other (loc ++ [name])) :
    Apart d loc dir pattern name := by
  rintro other hother ⟨⟨node, hentry, hnode⟩, hadmits⟩ hjoin
  have hisName := htree.isName_of_node? hentry
  have hentryThrough := (File.Disk.foundThrough_join hclean hisName hjoin).resolve_left hthrough
  cases node with
  | folder => exact hnode rfl
  | link target => exact hlinks other target hother hadmits hentry hentryThrough
  | file mode content | special =>
      exact File.not_prefix_of_ne hother (hentryThrough.of_not_link hentry (by simp))

/-! ## Loading depends on the selected files only -/

/-- A directory `s` with a document, a link to a document elsewhere, a link to a directory, a pipe, and a
link to nothing whose name has another ending. -/
def mixed : Disk :=
  { tree := ⟨[(["s"], .folder), (["t"], .folder), (["t", "c"], .file 0o644 "\x7b\x7d"),
      (["s", "a.json"], .file 0o644 "\x7b\x7d"), (["s", "b.json"], .link "../t/c"),
      (["s", "t.json"], .link "../t"), (["s", "p.json"], .special), (["s", "notes"], .link "gone")]⟩
    cwd := [] }

/-- The directory `s` has one more directory in it, with a file that is no document. -/
def mixedMore : Disk :=
  { mixed with
    tree := (mixed.tree.put ["s", "sub.json"] .folder).put ["s", "sub.json", "x.json"]
      (.file 0o644 "[") }

theorem usable_json : Usable "*.json" := by
  have hchunks : Glob.chunks (Bytes.ofString "*.json") = [⟨true, ".json"⟩] := by decide
  refine .inr ?_
  intro chunk hchunk
  rw [hchunks, List.mem_singleton] at hchunk
  subst hchunk
  decide +kernel

/-- What is looked up in the directory `s`. -/
def mixedNames : List Bytes := ["a.json", "b.json", "t.json", "p.json"]

theorem candidate_mixed (h : Candidate mixed ["s"] "*.json" name) : name ∈ mixedNames := by
  have hlisted : ∀ e ∈ mixed.tree.entries, e.1.dropLast = [Bytes.ofString "s"] →
      e.1.getLast? ∈ (mixedNames ++ [Bytes.ofString "notes"]).map some := by decide
  have htree : mixed.tree.WellFormed := by decide
  have hnotes : Glob.matches? "*.json" "notes" = .ok false := by decide +kernel
  obtain ⟨⟨node, hentry, -⟩, hadmits⟩ := h
  have hname := hlisted _ ((htree.mem_entries_iff (by simp)).mpr hentry) (by simp)
  rw [List.getLast?_concat, List.mem_map_of_injective (Option.some_injective _),
    List.mem_append, List.mem_singleton] at hname
  rcases hname with hname | rfl
  · exact hname
  · rcases hadmits with hempty | hmatches
    · exact absurd hempty (by decide)
    · exact absurd (hnotes.symm.trans hmatches) (by simp)

theorem read_empty_object (file : Bytes) :
    Document.read file "\x7b\x7d" = .ok ⟨file, [], []⟩ := by
  have hsorted : Json.sortedMembers [] = [] := List.mergeSort_nil
  have hservices : Document.readServices file (.object []) = .ok ([], []) := by
    show Document.Reading.andThen (.ok ([], [])) (Document.readSorted (Document.readService file)) = _
    rw [Document.Reading.andThen, Document.readSorted, hsorted]
    rfl
  rw [Document.read, show Json.parse? (Bytes.ofString "\x7b\x7d") = some (.object []) from rfl]
  simp only [hservices]

/-- A directory `s` with a document and an empty directory. -/
def throughSub : Disk :=
  { tree := ⟨[(["s"], .folder), (["s", "a.json"], .file 0o644 "\x7b\x7d"), (["s", "sub"], .folder)]⟩
    cwd := [] }

end Generation

end RpcBindings
