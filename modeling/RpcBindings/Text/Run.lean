/-!
# Runs of code points

A property of characters is given as a list of runs: code points from `first` to `last` in steps of
`step`.  The runs of a list are in increasing order and do not overlap, so the search stops at the
first run that starts behind the code point.  Steps of two keep the scripts short in which capital
and small letters alternate.
-/

set_option autoImplicit false

namespace RpcBindings

/-- The code points `first`, `first + step`, and so on up to `last`. -/
structure Run where
  first : Nat
  last : Nat
  step : Nat
  deriving DecidableEq, Repr, Inhabited

namespace Run

/-- The code point is one of the run. -/
def has (r : Run) (n : Nat) : Bool :=
  decide (r.first ≤ n) && decide (n ≤ r.last) && (n - r.first) % r.step == 0

/-- Some run of an ordered list has the code point. -/
def mem (n : Nat) : List Run → Bool
  | [] => false
  | r :: runs =>
      if n < r.first then false
      else if n ≤ r.last then (n - r.first) % r.step == 0
      else mem n runs

end Run

/-- A run whose code points map to as many code points with the same distances, from `image` on. -/
structure MapRun extends Run where
  image : Nat
  deriving DecidableEq, Repr, Inhabited

namespace MapRun

/-- The image of a code point under an ordered list of runs; a code point in none is its own. -/
def apply (n : Nat) : List MapRun → Nat
  | [] => n
  | r :: runs =>
      if n < r.first then n
      else if n ≤ r.last then
        if (n - r.first) % r.step == 0 then r.image + (n - r.first) else n
      else apply n runs

end MapRun

end RpcBindings
