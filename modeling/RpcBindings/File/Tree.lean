import RpcBindings.File.Fault
import RpcBindings.Path.Lexical

/-!
# File trees (SPEC §2, §4.4)

A file tree says what stands at which location.  A location is the names that lead there from the
root, which is a directory.  A symbolic link holds the path it leads to.  Pipes, sockets and devices
are special files: they are no directories, and no regular files either.

A disk is a tree on a device, and the device can fail where the tree gives no reason to.
-/

set_option autoImplicit false

namespace RpcBindings.File

/-- The names that lead from the root to a place in a file tree. -/
abbrev Location : Type := List Bytes

/-- What can stand at a location. -/
inductive Node where
  /-- A regular file with its permissions. -/
  | file (mode : Nat) (content : Bytes)
  | folder
  | link (target : Bytes)
  /-- A pipe, a socket or a device. -/
  | special
  deriving DecidableEq, Repr, Inhabited

/-- The node is a regular file. -/
def Node.isFile : Node → Bool
  | .file _ _ => true
  | _ => false

/-- The node is a directory. -/
def Node.isFolder : Node → Bool
  | .folder => true
  | _ => false

/-- Nodes at their locations; the root is left out. -/
structure Tree where
  entries : List (Location × Node)
  deriving DecidableEq, Repr, Inhabited

namespace Tree

/-- The tree with nothing but a root. -/
def empty : Tree := ⟨[]⟩

/-- What stands at a location. -/
def node? (t : Tree) (loc : Location) : Option Node :=
  match loc with
  | [] => some .folder
  | loc => t.entries.lookup loc

/-- The tree without what stood at a location. -/
def erase (t : Tree) (loc : Location) : Tree := ⟨t.entries.filter fun e => e.1 ≠ loc⟩

/-- The tree with a node at a location, in place of what stood there. -/
def put (t : Tree) (loc : Location) (node : Node) : Tree := ⟨(t.erase loc).entries ++ [(loc, node)]⟩

/-- The names in a directory with what they stand for, in increasing order. -/
def children (t : Tree) (loc : Location) : List (Bytes × Node) :=
  Bytes.sortOn Prod.fst (t.entries.filterMap fun e =>
    match e.1.getLast? with
    | some name => if e.1.dropLast = loc then some (name, e.2) else none
    | none => none)

/-- A location comes before those below it, and locations with a common start are ordered by the
first name in which they differ. -/
def sorted (t : Tree) : List (Location × Node) :=
  t.entries.mergeSort fun a b => decide (a.1 ≤ b.1)

end Tree

/-! ## Finding the location of a path -/

/-- The longest name a file can have. -/
def maxName : Nat := 255

/-- The longest path a call takes. -/
def maxPath : Nat := 4095

/-- How many links are followed for one path. -/
def maxLinks : Nat := 40

/-- Where a path leads. -/
inductive Target where
  /-- To something that is there. -/
  | present (loc : Location) (node : Node)
  /-- To a name that is not there, in a directory that is. -/
  | absent (parent : Location) (name : Bytes)
  deriving DecidableEq, Repr, Inhabited

/-- The directory a path starts in, given the one a relative path starts in. -/
def startOf (current : Location) (path : Bytes) : Location :=
  if Path.isAbsolute path then [] else current

/-- Walks names from a location.  A link before the last name is followed by `follow`, and so is one
at the last name when `followLast` holds. -/
def walkNames (t : Tree) (followLast : Bool)
    (follow : Location → List Bytes → Except Reason Target) :
    Location → Node → List Bytes → Except Reason Target
  | loc, node, [] => .ok (.present loc node)
  | loc, node, name :: rest =>
      if !node.isFolder then .error .notDirectory
      else if name = [] ∨ name = Path.here then walkNames t followLast follow loc .folder rest
      else if name = Path.up then walkNames t followLast follow loc.dropLast .folder rest
      else if name.length > maxName then .error .nameTooLong
      else
        match t.node? (loc ++ [name]) with
        | none => if rest.isEmpty then .ok (.absent loc name) else .error .notFound
        | some (.link target) =>
            if rest.isEmpty && !followLast then .ok (.present (loc ++ [name]) (.link target))
            else follow (startOf loc target) (Bytes.split Path.separator target ++ rest)
        | some found => walkNames t followLast follow (loc ++ [name]) found rest

/-- Walks names from a location; at most `links` links are followed. -/
def walk (t : Tree) (followLast : Bool) : Nat → Location → List Bytes → Except Reason Target
  | 0 => fun loc names => walkNames t followLast (fun _ _ => .error .tooManyLinks) loc .folder names
  | links + 1 => fun loc names => walkNames t followLast (walk t followLast links) loc .folder names

/-- How a device answers the calls on a file that is being written.  A call for which it has no fault
ends well. -/
structure Device where
  /-- Writing fails once so many bytes are written. -/
  write : Option (Nat × Reason) := none
  close : Option Reason := none
  chmod : Option Reason := none
  deriving DecidableEq, Repr, Inhabited

/-- The device on which every call ends well. -/
def Device.sound : Device := { }

/-- A tree, the directory that relative paths start in, and the device that the tree is on. -/
structure Disk where
  tree : Tree
  cwd : Location
  device : Device := .sound
  deriving DecidableEq, Repr, Inhabited

/-- The path of a location. -/
def pathOf (loc : Location) : Bytes := Path.separator :: Bytes.join [Path.separator] loc

namespace Disk

/-- The path of the directory that relative paths start in. -/
def cwdPath (d : Disk) : Bytes := pathOf d.cwd

/-- Where a path leads.  A link at its last name is followed when `followLast` holds. -/
def locate (d : Disk) (followLast : Bool) (path : Bytes) : Except Reason Target :=
  if path.contains 0 then .error .invalid
  else if path.isEmpty then .error .notFound
  else if path.length > maxPath then .error .nameTooLong
  else walk d.tree followLast maxLinks (startOf d.cwd path) (Bytes.split Path.separator path)

/-- What stands where a path leads, and the location. -/
def find (d : Disk) (followLast : Bool) (path : Bytes) : Except Reason (Location × Node) :=
  match d.locate followLast path with
  | .ok (.present loc node) => .ok (loc, node)
  | .ok (.absent _ _) => .error .notFound
  | .error reason => .error reason

end Disk

end RpcBindings.File
