import RpcBindings.Command.Line

/-!
# The program (SPEC §10)

The outermost layer.  It looks up the files that the arguments name, lets the command line run on
what it found, and carries out on the real disk what changed.  All decisions are made in between.

The header of a module names the sections of the program's full specification that it carries out, or
about which it proves something.
-/

set_option autoImplicit false

namespace RpcBindings.Program

open RpcBindings.File (Disk Location Node Tree pathOf)

/-- The permissions that files are taken to have. -/
def usualMode : Nat := 0o644

/-- The path of a location as a string, unless it is no valid text. -/
def pathString? (loc : Location) : Option String :=
  String.fromUTF8? (ByteArray.mk (pathOf loc).toArray)

/-- The location of an absolute path. -/
def locationOf (path : String) : Location := Path.names (Bytes.ofString path)

/-- The texts in an argument that may be paths: all of it, and what may be a value in it. -/
def candidates (arg : Bytes) : List Bytes :=
  [arg, arg.drop 2] ++ ((Bytes.cut 0x3D arg).map Prod.snd).toList

/-- What stands at a location.  A link is given the path it leads to in the end; one that leads
nowhere counts as absent. -/
def look (loc : Location) : IO (Option Node) := do
  let some path := pathString? loc | return none
  let place := (← IO.currentDir).join path
  let found : Option IO.FS.FileType ←
    try pure (some (← place.symlinkMetadata).type) catch _ => pure none
  match found with
  | some .dir => return some .folder
  | some .file => return some (.file usualMode (← IO.FS.readBinFile path).data.toList)
  | some .symlink =>
      let real := (← IO.FS.realPath path).toString
      return if real = path then none else some (.link (Bytes.ofString real))
  | some .other => return some .special
  | none => return none

/-- Adds what stands at a location to a tree. -/
def record (tree : Tree) (loc : Location) : IO Tree := do
  match ← look loc with
  | some node => return tree.put loc node
  | none => return tree

/-- Adds what stands at a location and above it. -/
def recordAll (tree : Tree) (loc : Location) : IO Tree :=
  ((List.range loc.length).map fun k => loc.take (k + 1)).foldlM record tree

/-- Adds what stands at a location and above it, and all that is met where links lead. -/
def recordLinked (tree : Tree) (loc : Location) : IO Tree := do
  let tree ← recordAll tree loc
  ((List.range loc.length).map fun k => loc.take (k + 1)).foldlM
    (fun tree above =>
      match tree.node? above with
      | some (.link target) => recordAll tree (Path.names target)
      | _ => pure tree)
    tree

/-- Adds what an argument may name, and what a directory among it holds. -/
def explore (cwd : Location) (tree : Tree) (text : Bytes) : IO Tree := do
  let loc := Path.names (Path.absolute (pathOf cwd) text)
  let tree ← recordLinked tree loc
  let some path := pathString? loc | return tree
  let folder ← IO.currentDir
  let folder := folder.join path
  if ← folder.isDir then
    let real := locationOf (← IO.FS.realPath folder).toString
    let entries ← folder.readDir
    entries.toList.foldlM
      (fun tree entry => recordLinked tree (real ++ [Bytes.ofString entry.fileName]))
      (← recordAll tree real)
  else
    return tree

/-- Puts a file on the real disk, under a temporary name first and then in its place. -/
def putFile (loc : Location) (content : Bytes) : IO Unit := do
  let temp := Disk.tempName (← IO.monoNanosNow)
  let some path := pathString? loc | return
  let some tempPath := pathString? (loc.dropLast ++ [temp]) | return
  IO.FS.writeBinFile tempPath (ByteArray.mk content.toArray)
  IO.setAccessRights tempPath ⟨⟨true, true, false⟩, ⟨true, false, false⟩, ⟨true, false, false⟩⟩
  IO.FS.rename tempPath path

/-- Puts on the real disk what a tree has and another has not. -/
def carryOut (before after : Tree) : IO Unit :=
  after.sorted.forM fun (loc, node) => do
    if before.node? loc ≠ some node then
      match node, pathString? loc with
      | .folder, some path => IO.FS.createDirAll path
      | .file _ content, _ => putFile loc content
      | _, _ => return

/-- Writes bytes and a line break. -/
def writeLine (out : IO.FS.Stream) (line : Bytes) : IO Unit :=
  out.write (ByteArray.mk (line ++ [0x0A]).toArray)

end RpcBindings.Program

open RpcBindings RpcBindings.Program in
/-- Runs the program on the real disk. -/
def main (args : List String) : IO UInt32 := do
  let cwd := locationOf (← IO.currentDir).toString
  let args := args.map Bytes.ofString
  let tree ← (args.flatMap candidates).foldlM (explore cwd) (← recordAll File.Tree.empty cwd)
  let ending := Command.program { tree, cwd } args
  carryOut tree ending.disk.tree
  (← IO.getStdout).write (ByteArray.mk ending.stdout.toArray)
  let err ← IO.getStderr
  ending.log.forM (writeLine err)
  match ending.fatal with
  | some text => writeLine err ("krpcgen: error: " ++ text)
  | none => pure ()
  return ending.exit.toUInt32
