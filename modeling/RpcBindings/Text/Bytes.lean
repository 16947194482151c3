/-!
# Byte strings

Names, paths and documents arrive as bytes that need not be valid UTF-8, and they are compared,
sorted and written back byte for byte.  So a byte string is the carrier of all text here.  Text
that the library itself writes is given as a string literal, which stands for its UTF-8 bytes.
-/

set_option autoImplicit false

namespace RpcBindings

/-- Text as the bytes it is stored in. -/
abbrev Bytes : Type := List UInt8

namespace Bytes

/-- The UTF-8 bytes of a string. -/
def ofString (s : String) : Bytes := s.toByteArray.data.toList

instance : Coe String Bytes := ⟨ofString⟩

instance : LawfulBEq Bytes := inferInstanceAs (LawfulBEq (List UInt8))

/-! ## Joining and cutting -/

/-- The parts one after another, with `sep` between neighbours. -/
def join (sep : Bytes) : List Bytes → Bytes
  | [] => []
  | [part] => part
  | part :: next :: rest => part ++ sep ++ join sep (next :: rest)

/-- The parts between the occurrences of `sep`; one more part than there are occurrences. -/
def split (sep : UInt8) : Bytes → List Bytes
  | [] => [[]]
  | b :: rest =>
      if b = sep then [] :: split sep rest
      else
        match split sep rest with
        | [] => [[b]]
        | part :: parts => (b :: part) :: parts

/-- What stands before and after the first `sep`, if there is one. -/
def cut (sep : UInt8) : Bytes → Option (Bytes × Bytes)
  | [] => none
  | b :: rest =>
      if b = sep then some ([], rest)
      else (cut sep rest).map fun p => (b :: p.1, p.2)

/-- The bytes without the longest tail that consists of `b` only. -/
def dropTrailing (b : UInt8) (bs : Bytes) : Bytes :=
  (bs.reverse.dropWhile (· = b)).reverse

/-- What follows `lead` when the bytes start with it. -/
def after? (lead bs : Bytes) : Option Bytes :=
  match lead, bs with
  | [], bs => some bs
  | _ :: _, [] => none
  | l :: lead, b :: bs => if l = b then after? lead bs else none

theorem split_ne_nil (sep : UInt8) (bs : Bytes) : split sep bs ≠ [] := by
  cases bs with
  | nil => simp [split]
  | cons b rest =>
      unfold split
      split
      · simp
      · split <;> simp

/-! ## Order

Lists are ordered by their first difference, so byte strings compare as sorting by name wants. -/

/-- The items in increasing order of their keys; items with equal keys keep their order. -/
def sortOn {α : Type} (key : α → Bytes) (items : List α) : List α :=
  items.mergeSort fun a b => decide (key a ≤ key b)

/-- The byte strings in increasing order. -/
def sort (items : List Bytes) : List Bytes := sortOn id items

end Bytes

end RpcBindings
