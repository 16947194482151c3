import RpcBindings.Text.Bytes

/-!
# Version (SPEC §10)

A released build has the version it was released under.  Any other build is named after the base
version, with the first characters of the revision it was made from and a mark when there were local
changes, as far as these are known.
-/

set_option autoImplicit false

namespace RpcBindings.Command

/-- What is known of a build. -/
structure Build where
  /-- The version it was released under. -/
  version : Bytes
  /-- Facts about the build by their keys; of several with one key the last counts. -/
  facts : List (Bytes × Bytes)
  deriving DecidableEq, Repr, Inhabited

namespace Build

/-- The last fact with a key, or nothing. -/
def fact (b : Build) (key : Bytes) : Bytes :=
  (b.facts.reverse.lookup key).getD []

/-- The build was released under a version. -/
def isReleased (b : Build) : Bool := b.version ≠ [] && b.version ≠ Bytes.ofString "(devel)"

/-- How many bytes of a revision are shown. -/
def revisionLength : Nat := 7

/-- The mark for the revision; a shorter one than is shown is not shown at all. -/
def revisionMark (b : Build) : Bytes :=
  let revision := b.fact "vcs.revision"
  if revision.length < revisionLength then [] else "+" ++ revision.take revisionLength

/-- The mark for local changes. -/
def changeMark (b : Build) : Bytes :=
  if b.fact "vcs.modified" = Bytes.ofString "true" then "-dirty" else []

/-- The name of a build of the base version. -/
def name (base : Bytes) : Option Build → Bytes
  | none => base
  | some b =>
      if b.isReleased then b.version
      else "devel-" ++ base ++ b.revisionMark ++ b.changeMark

end Build

/-- The base version. -/
def baseVersion : Bytes := "0.1.0"

/-- The version of this build. -/
def currentVersion : Bytes := Build.name baseVersion (some ⟨[], []⟩)

end RpcBindings.Command
