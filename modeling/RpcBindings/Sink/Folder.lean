import RpcBindings.File.Disk
import RpcBindings.Sink.Basic

/-!
# Files below a directory (SPEC §2, §4.4)

A sink that writes files below a directory of a disk.  A file is written under a temporary name first
and then moved to its place, so that a failed write never leaves half a file behind.  Directories that
are missing are made, and stay even when the write fails later on.
-/

set_option autoImplicit false

namespace RpcBindings

open RpcBindings.File (Disk)

/-- Where files are written and how. -/
structure Folder where
  root : Bytes
  /-- The permissions of new files; the default ones when it is zero. -/
  mode : Nat
  /-- Files that are there already are replaced. -/
  overwrite : Bool
  deriving DecidableEq, Repr, Inhabited

namespace Folder

/-- The permissions of new files unless others are asked for. -/
def defaultMode : Nat := 0o644

/-- Files below a directory, replaced if they are there. -/
def below (root : Bytes) : Folder := ⟨root, defaultMode, true⟩

/-- The bits of a mode that a file can be given: the nine permissions for reading, writing and
executing, and those for running as the file's owner, running as its group, and staying in place. -/
def settableBits : Nat := 0o777 ||| 0x800000 ||| 0x400000 ||| 0x100000

/-- The permissions of new files.  Bits that no file can be given are left out. -/
def permissions (f : Folder) : Nat :=
  (if f.mode = 0 then defaultMode else f.mode) &&& settableBits

/-- The absolute path of a file below the directory, for a run in `cwd`. -/
def resolve (f : Folder) (cwd path : Bytes) : Except Failure Bytes :=
  let root := Path.absolute cwd f.root
  let full := Path.absolute cwd (Path.join f.root path)
  if full = root ∨ (Bytes.after? (root ++ [Path.separator]) full).isSome then .ok full
  else .error (.outside path)

/-- Brings a temporary file to its place. -/
def settle (f : Folder) (d : Disk) (temp path full : Bytes) : Except Failure Disk :=
  if f.overwrite then
    match d.rename temp full with
    | .ok d => .ok d
    | .error fault => .error (.noted "failed to rename temp file" (.file fault))
  else
    match d.link temp full with
    | .ok d => .ok d
    | .error fault =>
        if fault.reason = .exists then .error (.taken path)
        else .error (.noted "failed to create file" (.file fault))

/-- Writes a content to a new file under a temporary name, and gives its path.  If that fails, the file
is taken away again. -/
def writeTemp (f : Folder) (d : Disk) (folder final content : Bytes) : Disk × Except Failure Bytes :=
  match d.createTemp folder final with
  | .error fault => (d, .error (.noted "failed to create temp file" (.file fault)))
  | .ok (d, file) =>
      let (d, writing) := d.write file content
      -- The file is closed whether or not all of it was written.
      match writing, d.close file with
      | some fault, _ =>
          (d.discard file.path, .error (.noted "failed to write temp file" (.file fault)))
      | none, some fault =>
          (d.discard file.path, .error (.noted "failed to close temp file" (.file fault)))
      | none, none =>
          match d.chmod file.path f.permissions with
          | .error fault =>
              (d.discard file.path, .error (.noted "failed to set file mode" (.file fault)))
          | .ok d => (d, .ok file.path)

/-- Writes a content to an absolute path whose directory is there.  However the attempt ends, the
temporary file is taken away then, if it is still there. -/
def place (f : Folder) (d : Disk) (allowance : Allowance) (path full content : Bytes) :
    Attempt Disk :=
  match f.writeTemp d (Path.directory full) (Path.base full) content with
  | (d, .error failure) => ⟨.error failure, allowance, d⟩
  | (d, .ok temp) =>
      match allowance.check with
      | .error why => ⟨.error (.interrupted why), allowance, d.discard temp⟩
      | .ok allowance =>
          match f.settle d temp path full with
          | .error failure => ⟨.error failure, allowance, d.discard temp⟩
          | .ok d => ⟨.ok (), allowance, d.discard temp⟩

/-- Writes a content to a path below the directory. -/
def write (f : Folder) (d : Disk) (allowance : Allowance) (path content : Bytes) : Attempt Disk :=
  match Sink.enter allowance path with
  | .error failure => ⟨.error failure, allowance, d⟩
  | .ok allowance =>
      match f.resolve d.cwdPath path with
      | .error failure => ⟨.error failure, allowance, d⟩
      | .ok full =>
          match d.makeFolders (Path.names (Path.directory full)).reverse with
          | (d, some fault) =>
              ⟨.error (.noted "failed to create directories" (.file fault)), allowance, d⟩
          | (d, none) => f.place d allowance path full content

/-- The sink that writes below a directory. -/
def sink (f : Folder) : Sink Disk := ⟨f.write⟩

end Folder

end RpcBindings
