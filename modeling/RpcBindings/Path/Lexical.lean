import RpcBindings.Text.Bytes

/-!
# Paths as text (SPEC §2, §4.4)

Paths are names with slashes between them.  The functions here look at the text alone and ask no file
system: cleaning takes out empty names and single points and lets two points cancel the name before
them; the other functions give the parts of a path and join them again.
-/

set_option autoImplicit false

namespace RpcBindings.Path

/-- The byte between the names of a path. -/
def separator : UInt8 := 0x2F

/-- The name of the directory itself. -/
def here : Bytes := "."

/-- The name of the directory above. -/
def up : Bytes := ".."

/-- The path starts at the root. -/
def isAbsolute : Bytes → Bool
  | [] => false
  | b :: _ => b == separator

/-- Puts a name on the names kept so far, the last one first.  Two points take the last name away;
where there is none they stay, unless the path starts at the root. -/
def push (rooted : Bool) (kept : List Bytes) (name : Bytes) : List Bytes :=
  if name = [] ∨ name = here then kept
  else if name = up then
    match kept with
    | [] => if rooted then [] else [up]
    | last :: others => if last = up then up :: kept else others
  else name :: kept

/-- The names of a path after cleaning. -/
def names (path : Bytes) : List Bytes :=
  ((Bytes.split separator path).foldl (push (isAbsolute path)) []).reverse

/-- The shortest path of the same meaning, as far as the text tells. -/
def clean (path : Bytes) : Bytes :=
  let body := Bytes.join [separator] (names path)
  if isAbsolute path then separator :: body
  else if body = [] then here
  else body

/-- What stands behind the last slash. -/
def lastName (path : Bytes) : Bytes :=
  (path.reverse.takeWhile (· != separator)).reverse

/-- What stands up to the last slash, the slash included. -/
def leading (path : Bytes) : Bytes :=
  (path.reverse.dropWhile (· != separator)).reverse

/-- The directory that a path points into. -/
def directory (path : Bytes) : Bytes := clean (leading path)

/-- The last name of a path. -/
def base (path : Bytes) : Bytes :=
  if path = [] then here
  else
    match Bytes.dropTrailing separator path with
    | [] => [separator]
    | stripped => lastName stripped

/-- One path below another, cleaned. -/
def join (first second : Bytes) : Bytes :=
  if first = [] then
    if second = [] then [] else clean second
  else clean (first ++ [separator] ++ second)

/-- The path from the root, for a run in the directory `cwd`. -/
def absolute (cwd path : Bytes) : Bytes :=
  if isAbsolute path then clean path else join cwd path

end RpcBindings.Path
