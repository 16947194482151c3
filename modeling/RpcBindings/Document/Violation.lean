import RpcBindings.Json.Value
import RpcBindings.Text.Quoted

/-!
# Violations (SPEC §7)

A document that does not describe services is refused at the first place where its shape is wrong.
A violation names the file, the keys and indexes that lead to that place, and what is wrong there.
-/

set_option autoImplicit false

namespace RpcBindings

/-- The keys and indexes that lead to a value of a document. -/
abbrev Place : Type := List Bytes

namespace Place

/-- The place of a member of the value at a place. -/
def sub (place : Place) (key : Bytes) : Place := place ++ [key]

/-- The place of an item of the array that is a member of the value at a place. -/
def item (place : Place) (key : Bytes) (i : Nat) : Place := place ++ [key, decimal i]

/-- The place as text, with points between its steps. -/
def text (place : Place) : Bytes := Bytes.join "." place

/-- A message with the file, if it has a name, and the place, if it is not the whole document. -/
def locate (file : Bytes) (place : Place) (message : Bytes) : Bytes :=
  let placed : Bytes := if place = [] then message else place.text ++ ": " ++ message
  if file = [] then placed else file ++ ": " ++ placed

end Place

namespace Document

/-- The parts of a document that have to be objects. -/
inductive Part where
  | document
  | service
  | enumeration
  | enumerationValue
  | procedure
  | parameter
  | type
  deriving DecidableEq, Repr, Inhabited

/-- What is asked of a part. -/
def Part.demand : Part → Bytes
  | .document => "document must be an object of services"
  | .service => "service must be an object"
  | .enumeration => "enumeration must be an object"
  | .enumerationValue => "enumeration value must be an object"
  | .procedure => "procedure must be an object"
  | .parameter => "parameter must be an object"
  | .type => "type must be an object"

/-- What can be wrong at a place of a document. -/
inductive Complaint where
  /-- The text is no JSON. -/
  | invalidJson
  /-- A part is no object but of another kind. -/
  | notObject (part : Part) (got : Json.Kind)
  /-- A member is of another kind than its key asks for. -/
  | wrongKind (wanted got : Json.Kind)
  /-- A member is not there. -/
  | missing (key : Bytes)
  /-- A list type has no element type. -/
  | noElementType
  deriving DecidableEq, Repr, Inhabited

/-- The wording of a complaint. -/
def Complaint.message : Complaint → Bytes
  | .invalidJson => "invalid JSON"
  | .notObject part got => part.demand ++ ", got " ++ got.name
  | .wrongKind wanted got => "expected " ++ wanted.name ++ ", got " ++ got.name
  | .missing key => "missing key " ++ quote key
  | .noElementType => "LIST type has no element type"

/-- A complaint about a place of a file. -/
structure Violation where
  file : Bytes
  place : Place
  complaint : Complaint
  deriving DecidableEq, Repr, Inhabited

/-- The wording of a violation. -/
def Violation.message (v : Violation) : Bytes := Place.locate v.file v.place v.complaint.message

end Document

end RpcBindings
