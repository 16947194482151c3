import Mathlib.Logic.Relation
import RpcBindings.Proofs.Json.Grammar
import RpcBindings.Service.Type

/-!
# Documents that say the same (SPEC §3, §6)

Objects have no order, and most of what a document holds is not looked at.  What is looked at depends
on what a value is taken for, its role: a service has three members that count, a type has those that
its code asks for, the bodies of classes and the element types of a list behind the first do not count
at all.

`Change role` says what can be done to a value in a role without changing what the document means.
Two texts are equivalent when the value of one becomes the value of the other by any number of changes.
-/

set_option autoImplicit false

namespace RpcBindings.Document

open RpcBindings.Json (Members)

/-! ## Roles -/

/-- What a value is taken for. -/
inductive Role where
  | document
  | service
  | classes
  | enumerations
  | procedures
  | enumeration
  /-- The values of an enumeration. -/
  | values
  | value
  | procedure
  | parameters
  | parameter
  | type
  /-- The element types of a tuple. -/
  | types
  /-- The element types of a list, of which the first one counts. -/
  | elements
  | string
  /-- Nothing is asked of the value. -/
  | unread
  /-- The value has no place in a document; what kind it is of may count, what is inside does not. -/
  | other
  deriving DecidableEq, Repr

namespace Role

/-- The members of a type that count besides its code, for the value of the code. -/
def typeFields : Option Json → List (Bytes × Role)
  | some (.string code) =>
      if code = ServiceType.tupleCode then [("types", .types)]
      else if code = ServiceType.listCode then [("types", .elements)]
      else if code = ServiceType.classCode then [("service", .string), ("name", .string)]
      else []
  | _ => []

/-- The keys that count in an object with fixed keys, with the roles of their values. -/
def fields (members : Members) : Role → List (Bytes × Role)
  | .service =>
      [("classes", .classes), ("enumerations", .enumerations), ("procedures", .procedures)]
  | .enumeration => [("values", .values)]
  | .value => [("name", .string)]
  | .procedure => [("parameters", .parameters), ("return_type", .type)]
  | .parameter => [("name", .string), ("type", .type)]
  | .type => ("code", .string) :: typeFields (Json.member? "code" members)
  | _ => []

/-- The role is that of an object with fixed keys. -/
def isRecord : Role → Bool
  | .service | .enumeration | .value | .procedure | .parameter | .type => true
  | _ => false

/-- The role of every member of an object whose keys are names. -/
def listed? : Role → Option Role
  | .document => some .service
  | .classes => some .unread
  | .enumerations => some .enumeration
  | .procedures => some .procedure
  | _ => none

/-- The role of the value of a key in an object with fixed keys. -/
def field? (role : Role) (members : Members) (key : Bytes) : Option Role :=
  (role.fields members).lookup key

/-- The role of a member. -/
def member (role : Role) (members : Members) (key : Bytes) : Role :=
  match role.listed? with
  | some sub => sub
  | none => (role.field? members key).getD .other

/-- The role of the `i`th item of an array. -/
def item (role : Role) (i : Nat) : Role :=
  match role with
  | .values => .value
  | .parameters => .parameter
  | .types => .type
  | .elements => if i = 0 then .type else .unread
  | _ => .other

end Role

/-! ## Changes -/

/-- One change to a value in a role. -/
inductive Change : Role → Json → Json → Prop where
  /-- The members of an object with distinct keys get another order. -/
  | permute {role : Role} {members members' : Members} :
      (members.map Prod.fst).Nodup → members.Perm members' →
      Change role (.object members) (.object members')
  /-- A member goes whose key does not count.  Read backwards, one comes; both together replace one
  by another. -/
  | drop {role : Role} {before after : Members} {key : Bytes} {v : Json} :
      role.isRecord = true → role.field? (before ++ (key, v) :: after) key = none →
      Change role (.object (before ++ (key, v) :: after)) (.object (before ++ after))
  /-- A value that is not read becomes any other. -/
  | unread {v w : Json} : Change .unread v w
  /-- A member changes. -/
  | member {role : Role} {before after : Members} {key : Bytes} {v w : Json} :
      Change (role.member (before ++ (key, v) :: after) key) v w →
      Change role (.object (before ++ (key, v) :: after)) (.object (before ++ (key, w) :: after))
  /-- An item changes. -/
  | item {role : Role} {before after : List Json} {v w : Json} :
      Change (role.item before.length) v w →
      Change role (.array (before ++ v :: after)) (.array (before ++ w :: after))

/-- The texts hold values of which one becomes the other by any number of changes, in either
direction. -/
def Equivalent (data data' : Bytes) : Prop :=
  ∃ v w, Json.IsText data v ∧ Json.IsText data' w ∧ Relation.EqvGen (Change .document) v w

end RpcBindings.Document
