/-!
Sets of code points written as inclusive ranges in increasing order, and maps between code points
written as runs. Both are searched from the left and the search stops at the first range that lies
beyond the code point.
-/
set_option autoImplicit false

namespace Winnow.Text

def inRanges : List (Nat × Nat) → Nat → Bool
  | [], _ => false
  | (lo, hi) :: rest, c => if c < lo then false else if c ≤ hi then true else inRanges rest c

/-- Every `step`-th code point from `first` to `last` goes to the one as far from `target` as it is
from `first`. -/
structure Run where
  first : Nat
  last : Nat
  step : Nat
  target : Nat
  deriving DecidableEq, Repr

def Run.image? (r : Run) (c : Nat) : Option Nat :=
  if r.first ≤ c ∧ c ≤ r.last ∧ (c - r.first) % r.step = 0 then some (r.target + (c - r.first)) else none

def Run.preimage? (r : Run) (c : Nat) : Option Nat :=
  if r.target ≤ c then
    let p := r.first + (c - r.target)
    if p ≤ r.last ∧ (c - r.target) % r.step = 0 then some p else none
  else none

def Run.meets (r : Run) (lo hi : Nat) : Bool :=
  let from_ := if lo ≤ r.first then r.first else r.first + (lo - r.first + r.step - 1) / r.step * r.step
  decide (from_ ≤ r.last ∧ from_ ≤ hi)

def mapRuns : List Run → Nat → Option Nat
  | [], _ => none
  | r :: rest, c => if c < r.first then none else
      match r.image? c with
      | some d => some d
      | none => mapRuns rest c

theorem Run.image?_eq_some {r : Run} {c d : Nat} (h : r.image? c = some d) :
    r.first ≤ c ∧ c ≤ r.last ∧ d = r.target + (c - r.first) := by
  unfold image? at h
  split at h
  · next hc => simp at h; omega
  · simp at h

end Winnow.Text
