/-! Maps between letters of different case, as runs of equally spaced code points. -/

namespace RegionNaming.Unicode

/-- The code points `first`, `first + step`, ... up to `last`, each mapped to the code point that
lies as far from it as `image` lies from `first`. -/
structure CaseRun where
  first : Nat
  last : Nat
  step : Nat
  image : Nat

namespace CaseRun

def covers (r : CaseRun) (n : Nat) : Bool :=
  r.first ≤ n && n ≤ r.last && (n - r.first) % r.step == 0

def apply (r : CaseRun) (n : Nat) : Nat := r.image + (n - r.first)

def source? (r : CaseRun) (m : Nat) : Option Nat :=
  if r.image ≤ m && r.covers (r.first + (m - r.image)) then some (r.first + (m - r.image)) else none

def size (r : CaseRun) : Nat := (r.last - r.first) / r.step + 1

def pairs (r : CaseRun) : List (Nat × Nat) :=
  (List.range r.size).map fun i => (r.first + i * r.step, r.image + i * r.step)

end CaseRun

def mapRuns (runs : List CaseRun) (n : Nat) : Nat :=
  match runs.find? (·.covers n) with
  | some r => r.apply n
  | none => n

end RegionNaming.Unicode
