import RpcBindings.Sink.Basic

/-!
# Files in memory (SPEC §2)

A sink that keeps what is written, one content for each path.  The contents are kept in no particular
order; the paths are sorted when they are asked for.
-/

set_option autoImplicit false

namespace RpcBindings

/-- Paths with their contents. -/
structure Memory where
  entries : List (Bytes × Bytes)
  deriving DecidableEq, Repr, Inhabited

namespace Memory

/-- No files. -/
def empty : Memory := ⟨[]⟩

/-- The memory with a content at a path, in place of what was there. -/
def put (m : Memory) (path content : Bytes) : Memory :=
  ⟨(path, content) :: m.entries.filter fun e => e.1 ≠ path⟩

/-- The content at a path. -/
def get? (m : Memory) (path : Bytes) : Option Bytes := m.entries.lookup path

/-- The paths with a content, in increasing order. -/
def paths (m : Memory) : List Bytes := Bytes.sort (m.entries.map Prod.fst)

/-- The paths with their contents, in increasing order of the paths. -/
def files (m : Memory) : List (Bytes × Bytes) := Bytes.sortOn Prod.fst m.entries

/-- The sink that keeps files in memory. -/
def sink : Sink Memory where
  write m allowance path content :=
    match Sink.enter allowance path with
    | .error f => ⟨.error f, allowance, m⟩
    | .ok allowance => ⟨.ok (), allowance, m.put path content⟩

end Memory

end RpcBindings
