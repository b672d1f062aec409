/-! Binary numbers of 53 significant bits, and the one nearest to a decimal number. -/

namespace RegionNaming.Number

inductive Binary64 where
  /-- `mantissa * 2 ^ exponent`, with a sign that zero has too. -/
  | finite (negative : Bool) (mantissa : Nat) (exponent : Int)
  | infinite (negative : Bool)
  | nan
deriving DecidableEq, Repr

def leastExponent : Int := -1074

def greatestExponent : Int := 971

/-- `num / den` as a whole number, the nearest one; of two equally near, the even one. -/
def roundDiv (num den : Nat) : Nat :=
  let q := num / den
  let r := num % den
  if 2 * r < den then q else if den < 2 * r then q + 1 else if q % 2 = 0 then q else q + 1

def scale (num den : Nat) (e : Int) : Nat × Nat :=
  if e < 0 then (num * Nat.pow 2 e.natAbs, den) else (num, den * Nat.pow 2 e.natAbs)

/-- The exponent for which a positive quotient has a mantissa of 53 bits, if the format has it. -/
def exponentOf (num den : Nat) : Int :=
  let e : Int := (num.log2 : Int) - den.log2 - 52
  let (n, d) := scale num den e
  let e := if n < d * Nat.pow 2 52 then e - 1 else e
  max e leastExponent

def ofQuotient? (negative : Bool) (num den : Nat) : Option Binary64 :=
  let e := exponentOf num den
  let (n, d) := scale num den e
  let m := roundDiv n d
  let (m, e) := if m = Nat.pow 2 53 then (Nat.pow 2 52, e + 1) else (m, e)
  if greatestExponent < e then none else some (.finite negative m e)

/-- How many decimal digits decide, at most, whether a number is too large or as good as zero. -/
def decimalReach : Int := 400

/-- The number nearest to `digits * 10 ^ exponent`, where `digits` has `count` digits; none if it is
too large for the format. -/
def Binary64.ofDecimal? (negative : Bool) (digits count : Nat) (exponent : Int) : Option Binary64 :=
  if digits = 0 then some (.finite negative 0 leastExponent)
  else if decimalReach < exponent + (Nat.log2 digits) / 4 then none
  else if exponent + count < -decimalReach then some (.finite negative 0 leastExponent)
  else if exponent < 0 then ofQuotient? negative digits (Nat.pow 10 exponent.natAbs)
  else ofQuotient? negative (digits * Nat.pow 10 exponent.natAbs) 1

end RegionNaming.Number
