import RpcBindings.Document.Violation
import RpcBindings.Service.Basic

/-!
# Readings (SPEC §6, §7)

Reading a part of a document ends with the first violation, or with a result and the warnings met on
the way, in the order in which they were met.
-/

set_option autoImplicit false

namespace RpcBindings.Document

/-- The outcome of reading a part of a document. -/
def Reading (α : Type) : Type := Except Violation (α × List Warning)

namespace Reading

/-- A result without a warning. -/
def done {α : Type} (a : α) : Reading α := .ok (a, [])

/-- Goes on with the result of `x`; the warnings of `x` come first. -/
def andThen {α β : Type} (x : Reading α) (f : α → Reading β) : Reading β :=
  match x with
  | .error v => .error v
  | .ok (a, ws) =>
      match f a with
      | .error v => .error v
      | .ok (b, vs) => .ok (b, ws ++ vs)

instance : Monad Reading where
  pure := done
  bind := andThen

/-- A reading that ends here. -/
def fail {α : Type} (v : Violation) : Reading α := .error v

/-- A warning. -/
def warn (w : Warning) : Reading Unit := .ok ((), [w])

/-- Reads things one after another, with their numbers from `i` on. -/
def each {α β : Type} (f : Nat → α → Reading β) (i : Nat) : List α → Reading (List β)
  | [] => done []
  | a :: as =>
      andThen (f i a) fun b =>
        andThen (each f (i + 1) as) fun bs => done (b :: bs)

end Reading

end RpcBindings.Document
