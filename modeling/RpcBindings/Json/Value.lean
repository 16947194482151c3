import RpcBindings.Text.Bytes

/-!
# JSON values (SPEC §6)

A JSON text as a tree.  Objects keep their members in the order of the text, equal keys included:
looking a key up gives the first member that has it, listing an object gives them all.
-/

set_option autoImplicit false

namespace RpcBindings

/-- A JSON value.  A number is kept as it is spelled. -/
inductive Json where
  | null
  | bool (b : Bool)
  | number (spelling : Bytes)
  | string (text : Bytes)
  | array (items : List Json)
  | object (members : List (Bytes × Json))
  deriving Inhabited, Repr

namespace Json

/-- What a value is, as messages name it. -/
inductive Kind where
  | null
  | boolean
  | number
  | string
  | array
  | object
  deriving DecidableEq, Repr, Inhabited

/-- The word for a kind. -/
def Kind.name : Kind → Bytes
  | .null => "null"
  | .boolean => "boolean"
  | .number => "number"
  | .string => "string"
  | .array => "array"
  | .object => "object"

/-- The kind of a value. -/
def kind : Json → Kind
  | .null => .null
  | .bool _ => .boolean
  | .number _ => .number
  | .string _ => .string
  | .array _ => .array
  | .object _ => .object

/-- The members of an object. -/
abbrev Members : Type := List (Bytes × Json)

/-- The value of the first member with the key. -/
def member? (key : Bytes) : Members → Option Json
  | [] => none
  | (k, v) :: rest => if k = key then some v else member? key rest

/-- All members in increasing order of their keys; members with equal keys keep their order. -/
def sortedMembers (members : Members) : Members := Bytes.sortOn Prod.fst members

theorem mem_of_member? {key : Bytes} {v : Json} {members : Members}
    (h : member? key members = some v) : (key, v) ∈ members := by
  induction members with
  | nil => simp [member?] at h
  | cons m rest ih =>
      obtain ⟨k, w⟩ := m
      rw [member?] at h
      split at h
      · rename_i hk
        cases h
        simp [hk]
      · exact List.mem_cons_of_mem _ (ih h)

/-- A value found in an object is smaller than the object. -/
theorem sizeOf_lt_of_member? {key : Bytes} {v : Json} {members : Members}
    (h : member? key members = some v) : sizeOf v < sizeOf members := by
  have hm := List.sizeOf_lt_of_mem (mem_of_member? h)
  have hp : sizeOf (key, v) = 1 + sizeOf key + sizeOf v := rfl
  omega

end Json

end RpcBindings
