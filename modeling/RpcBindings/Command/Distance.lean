import RpcBindings.Text.Utf8

/-!
# Edit distance (SPEC §10)

How many characters have to be put in, taken out or changed to make one word another.
-/

set_option autoImplicit false

namespace RpcBindings.Command

/-- The next row of the table of distances.  `corner` is the entry to the upper left and `left` the
one to the left of what follows; the row above is given together with the characters of the word. -/
def nextRowFrom (c : Char) (corner left : Nat) : List (Char × Nat) → List Nat
  | [] => []
  | (d, above) :: rest =>
      let changed := if c = d then corner else corner + 1
      let entry := min (min (above + 1) (left + 1)) changed
      entry :: nextRowFrom c above entry rest

/-- The row of distances for one more character of the first word. -/
def nextRow (word : List Char) (row : List Nat) (c : Char) : List Nat :=
  match row with
  | [] => []
  | corner :: above => (corner + 1) :: nextRowFrom c corner (corner + 1) (word.zip above)

/-- The number of edits between two words. -/
def distance (a b : Bytes) : Nat :=
  let word := Utf8.runes b
  ((Utf8.runes a).foldl (nextRow word) (List.range (word.length + 1))).getLastD 0

end RpcBindings.Command
