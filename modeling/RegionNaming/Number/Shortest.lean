import RegionNaming.Number.Binary64

/-! The shortest decimal text that reads back as a given binary number. -/

namespace RegionNaming.Number

structure Decimal where
  digits : Nat
  exponent : Int
deriving DecidableEq, Repr

/-- A positive binary number as a quotient, with the ends of the interval of numbers that are nearer
to it than to its neighbours. All three have the denominator `den`; the ends belong to the interval
if `closed` holds. -/
structure Interval where
  low : Nat
  value : Nat
  high : Nat
  den : Nat
  closed : Bool

/-- The interval around `m * 2 ^ e`. Below a power of two the neighbour is only half as far. -/
def Interval.around (m : Nat) (e : Int) : Interval :=
  let near := m = Nat.pow 2 52 && leastExponent < e
  let (num, den) := if e < 0 then (4, 4 * Nat.pow 2 e.natAbs) else (4 * Nat.pow 2 e.natAbs, 4)
  let unit := num / 4
  { low := m * num - (if near then unit else 2 * unit)
    value := m * num
    high := m * num + 2 * unit
    den := den
    closed := m % 2 = 0 }

def Interval.holds (i : Interval) (n d : Nat) : Bool :=
  if i.closed then i.low * d ≤ n * i.den && n * i.den ≤ i.high * d
  else i.low * d < n * i.den && n * i.den < i.high * d

def power10 (e : Int) : Nat × Nat :=
  if e < 0 then (1, Nat.pow 10 e.natAbs) else (Nat.pow 10 e.natAbs, 1)

def leadingExponent (num den : Nat) : Nat → Int → Int
  | 0, e => e
  | fuel + 1, e =>
    let (p, q) := power10 e
    if p * den ≤ num * q then e else leadingExponent num den fuel (e - 1)

/-- The multiple of `10 ^ e` that lies in an interval and is nearest to its value; of two equally
near the greater one. -/
def Interval.onGrid? (i : Interval) (e : Int) : Option Nat :=
  let (p, q) := power10 e
  let down := (i.value * q) / (i.den * p)
  let up := down + 1
  let inside := fun n => i.holds (n * p) q
  let closerUp := (2 * down + 1) * p * i.den ≤ 2 * i.value * q
  if inside down && inside up then some (if closerUp then up else down)
  else if inside down then some down
  else if inside up then some up
  else none

def Interval.firstGrid (i : Interval) : Nat → Int → Decimal
  | 0, e => ⟨(i.value * (power10 e).2) / (i.den * (power10 e).1), e⟩
  | fuel + 1, e =>
    match i.onGrid? e with
    | some n => ⟨n, e⟩
    | none => i.firstGrid fuel (e - 1)

/-- The decimal number with the fewest digits that lies nearer to `m * 2 ^ e` than to any other
number of the format; seventeen digits are always enough. -/
def shortest (m : Nat) (e : Int) : Decimal :=
  let i := Interval.around m e
  i.firstGrid 20 (leadingExponent i.value i.den 700 310)

/-- A decimal number without an exponent: zeros are written out, and a point only if there are
digits behind it. -/
def Decimal.positional (d : Decimal) : String :=
  let digits := toString d.digits
  if 0 ≤ d.exponent then digits ++ String.ofList (List.replicate d.exponent.natAbs '0')
  else
    let places := d.exponent.natAbs
    let cs := digits.toList
    let cs := List.replicate (places + 1 - cs.length) '0' ++ cs
    let whole := cs.take (cs.length - places)
    let part := ((cs.drop (cs.length - places)).reverse.dropWhile (· = '0')).reverse
    String.ofList (if part = [] then whole else whole ++ '.' :: part)

def Binary64.render : Binary64 → String
  | .nan => "NaN"
  | .infinite negative => if negative then "-inf" else "inf"
  | .finite negative m e =>
    (if negative then "-" else "") ++ if m = 0 then "0" else (shortest m e).positional

end RegionNaming.Number
