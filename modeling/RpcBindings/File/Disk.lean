import RpcBindings.File.Tree
import RpcBindings.Text.Numeral

/-!
# Calls on a disk (SPEC §2, §4.4)

Reading, listing and looking up, and the ways in which a disk changes: making directories, creating a
file under a temporary name, writing to it and setting its permissions, moving a file over what is there
or giving it a second name if nothing is there, and taking a file away.  Every call is given paths and
finds out itself where they lead; only a file that is open is known by where it stands.
-/

set_option autoImplicit false

namespace RpcBindings.File.Disk

/-! ## Looking -/

/-- What stands where a path leads, links followed. -/
def stat (d : Disk) (path : Bytes) : Except Fault Node :=
  match d.find true path with
  | .ok (_, node) => .ok node
  | .error reason => .error ⟨.stat, [path], reason⟩

/-- The names in a directory with what they stand for, in increasing order. -/
def list (d : Disk) (path : Bytes) : Except Fault (List (Bytes × Node)) :=
  match d.find true path with
  | .ok (loc, .folder) => .ok (d.tree.children loc)
  | .ok _ => .error ⟨.open, [path], .notDirectory⟩
  | .error reason => .error ⟨.open, [path], reason⟩

/-- The content of a regular file. -/
def read (d : Disk) (path : Bytes) : Except Fault Bytes :=
  match d.find true path with
  | .ok (_, .file _ content) => .ok content
  | .ok _ => .error ⟨.open, [path], .invalid⟩
  | .error reason => .error ⟨.open, [path], reason⟩

/-! ## Directories -/

/-- Makes a directory whose parent is there. -/
def makeFolder (d : Disk) (path : Bytes) : Except Fault Disk :=
  match d.locate false path with
  | .ok (.present _ .folder) => .ok d
  | .ok (.present _ _) => .error ⟨.mkdir, [path], .exists⟩
  | .ok (.absent parent name) => .ok { d with tree := d.tree.put (parent ++ [name]) .folder }
  | .error reason => .error ⟨.mkdir, [path], reason⟩

/-- Makes the directory with these names, the last one first, and those above it as needed.  What was
made before a failure stays. -/
def makeFolders (d : Disk) : List Bytes → Disk × Option Fault
  | [] => (d, none)
  | name :: above =>
      let path := pathOf (name :: above).reverse
      match d.find true path with
      | .ok (_, .folder) => (d, none)
      | .ok _ => (d, some ⟨.mkdir, [path], .notDirectory⟩)
      | .error _ =>
          match makeFolders d above with
          | (d, some fault) => (d, some fault)
          | (d, none) =>
              match d.makeFolder path with
              | .ok d => (d, none)
              | .error fault => (d, some fault)

/-! ## Temporary files -/

/-- The `k`th temporary name. -/
def tempName (k : Nat) : Bytes := ".krpcgen-" ++ decimal k ++ ".tmp"

/-- The path of a name in a directory. -/
def inFolder (path name : Bytes) : Bytes :=
  if path = [Path.separator] then Path.separator :: name else path ++ [Path.separator] ++ name

/-- The name can be given to a temporary file in a directory: nothing stands there, and it is not the
name the file is to have in the end. -/
def isFree (d : Disk) (folder final : Bytes) (k : Nat) : Bool :=
  tempName k != final &&
    match d.locate false (inFolder folder (tempName k)) with
    | .ok (.present _ _) => false
    | _ => true

/-- The first temporary name that is free.  There are more names to choose from than can be taken. -/
def freeName (d : Disk) (folder final : Bytes) : Bytes :=
  tempName (((List.range (d.tree.entries.length + 2)).find? (d.isFree folder final)).getD 0)

/-- A file that is open for writing: the path it was opened by, and where it stands. -/
structure OpenFile where
  path : Bytes
  loc : Location
  deriving DecidableEq, Repr, Inhabited

/-- The permissions of a file that was just created under a temporary name. -/
def tempMode : Nat := 0o600

/-- Creates an empty file under a temporary name in a directory, and opens it. -/
def createTemp (d : Disk) (folder final : Bytes) : Except Fault (Disk × OpenFile) :=
  let path := inFolder folder (d.freeName folder final)
  match d.locate false path with
  | .ok (.absent parent name) =>
      let loc := parent ++ [name]
      .ok ({ d with tree := d.tree.put loc (.file tempMode []) }, ⟨path, loc⟩)
  | .ok (.present _ _) => .error ⟨.open, [path], .exists⟩
  | .error reason => .error ⟨.open, [path], reason⟩

/-! ## Writing -/

/-- The disk with more bytes at the end of a file. -/
def append (d : Disk) (loc : Location) (bytes : Bytes) : Disk :=
  match d.tree.node? loc with
  | some (.file mode content) => { d with tree := d.tree.put loc (.file mode (content ++ bytes)) }
  | _ => d

/-- Writes a content to an open file.  What was written before a failure stays. -/
def write (d : Disk) (file : OpenFile) (content : Bytes) : Disk × Option Fault :=
  match d.device.write with
  | none => (d.append file.loc content, none)
  | some (count, reason) =>
      (d.append file.loc (content.take count), some ⟨.write, [file.path], reason⟩)

/-- Closes an open file, and says what went wrong if something did. -/
def close (d : Disk) (file : OpenFile) : Option Fault :=
  d.device.close.map fun reason => ⟨.close, [file.path], reason⟩

/-- Sets the permissions of what a path leads to.  Those of directories and special files are not kept
track of. -/
def chmod (d : Disk) (path : Bytes) (mode : Nat) : Except Fault Disk :=
  match d.device.chmod with
  | some reason => .error ⟨.chmod, [path], reason⟩
  | none =>
      match d.find true path with
      | .ok (loc, .file _ content) => .ok { d with tree := d.tree.put loc (.file mode content) }
      | .ok _ => .ok d
      | .error reason => .error ⟨.chmod, [path], reason⟩

/-! ## Moving and taking away -/

/-- Moves a file to a path, over a file or link that is there. -/
def rename (d : Disk) (source target : Bytes) : Except Fault Disk :=
  match d.find false source with
  | .ok (loc, .file mode content) =>
      let moved (new : Location) : Disk :=
        { d with tree := (d.tree.erase loc).put new (.file mode content) }
      match d.locate false target with
      | .ok (.present _ .folder) => .error ⟨.rename, [source, target], .exists⟩
      | .ok (.present new _) => .ok (moved new)
      | .ok (.absent parent name) => .ok (moved (parent ++ [name]))
      | .error reason => .error ⟨.rename, [source, target], reason⟩
  | .ok _ => .error ⟨.rename, [source, target], .invalid⟩
  | .error reason => .error ⟨.rename, [source, target], reason⟩

/-- Gives a file a second name, unless something has it. -/
def link (d : Disk) (source target : Bytes) : Except Fault Disk :=
  match d.find false source with
  | .ok (_, .file mode content) =>
      match d.locate false target with
      | .ok (.present _ _) => .error ⟨.link, [source, target], .exists⟩
      | .ok (.absent parent name) =>
          .ok { d with tree := d.tree.put (parent ++ [name]) (.file mode content) }
      | .error reason => .error ⟨.link, [source, target], reason⟩
  | .ok _ => .error ⟨.link, [source, target], .invalid⟩
  | .error reason => .error ⟨.link, [source, target], reason⟩

/-- Takes away what stands at a path, if something does; a directory that is not empty stays. -/
def discard (d : Disk) (path : Bytes) : Disk :=
  match d.find false path with
  | .ok (loc, node) =>
      if node.isFolder && !(d.tree.children loc).isEmpty then d
      else { d with tree := d.tree.erase loc }
  | .error _ => d

end RpcBindings.File.Disk
