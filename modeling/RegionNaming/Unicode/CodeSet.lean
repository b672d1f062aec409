import RegionNaming.Text.Split

/-! Sets of Unicode scalar values as ascending lists of ranges. -/

namespace RegionNaming.Unicode

abbrev Range := Nat × Nat

/-- A set of scalar values: ascending ranges that neither overlap nor touch. The surrogates
`D800` to `DFFF` are no scalar values, so whether a range runs across them makes no difference. -/
abbrev CodeSet := List Range

def lastCode : Nat := 0x10FFFF

namespace CodeSet

/-- Membership; the search ends at the first range that lies above `n`. -/
def contains : CodeSet → Nat → Bool
  | [], _ => false
  | (lo, hi) :: rest, n => if n < lo then false else if n ≤ hi then true else contains rest n

/-- Ascending ranges of both lists; `fuel` bounds the sum of their lengths. -/
def interleave : Nat → CodeSet → CodeSet → CodeSet
  | 0, _, _ => []
  | _ + 1, [], ys => ys
  | _ + 1, xs, [] => xs
  | fuel + 1, x :: xs, y :: ys =>
    if x.1 ≤ y.1 then x :: interleave fuel xs (y :: ys) else y :: interleave fuel (x :: xs) ys

def joinFrom (r : Range) : CodeSet → CodeSet
  | [] => [r]
  | s :: rest => if s.1 ≤ r.2 + 1 then joinFrom (r.1, max r.2 s.2) rest else r :: joinFrom s rest

def join : CodeSet → CodeSet
  | [] => []
  | r :: rest => joinFrom r rest

def union (a b : CodeSet) : CodeSet :=
  match a, b with
  | [], b => b
  | a, [] => a
  | a, b => join (interleave (a.length + b.length + 1) a b)

def unionAll (sets : List CodeSet) : CodeSet := sets.foldl union []

def single (n : Nat) : CodeSet := [(n, n)]

def ofCodes (codes : List Nat) : CodeSet := unionAll (codes.map single)

def next (n : Nat) : Nat := if n = 0xD7FF then 0xE000 else n + 1

def previous (n : Nat) : Nat := if n = 0xE000 then 0xD7FF else n - 1

def gaps (lo : Nat) : CodeSet → CodeSet
  | [] => if lo ≤ lastCode then [(lo, lastCode)] else []
  | (a, b) :: rest =>
    if lo < a then (lo, previous a) :: gaps (next b) rest else gaps (next b) rest

def complement (s : CodeSet) : CodeSet := gaps 0 s

/-- The code points of both sets; `fuel` bounds the sum of their lengths. -/
def meet : Nat → CodeSet → CodeSet → CodeSet
  | 0, _, _ => []
  | _ + 1, [], _ => []
  | _ + 1, _, [] => []
  | fuel + 1, (a, b) :: xs, (c, d) :: ys =>
    let rest := if b < d then meet fuel xs ((c, d) :: ys) else meet fuel ((a, b) :: xs) ys
    if max a c ≤ min b d then (max a c, min b d) :: rest else rest

def inter (a b : CodeSet) : CodeSet := meet (a.length + b.length + 1) a b

def diff (a b : CodeSet) : CodeSet := inter a (complement b)

def symmDiff (a b : CodeSet) : CodeSet := diff (union a b) (inter a b)

def full : CodeSet := [(0, lastCode)]

def ascii : CodeSet := [(0, 0x7F)]

def isAscii (s : CodeSet) : Bool := s.all fun r => r.2 ≤ 0x7F

def hexValue (c : Char) : Nat := if c.isDigit then c.toNat - 48 else c.toNat - 55

def hex (cs : List Char) : Nat := cs.foldl (fun n c => 16 * n + hexValue c) 0

def readRange (cs : List Char) : Range :=
  match Text.cutAt '-' cs with
  | some (lo, hi) => (hex lo, hex hi)
  | none => (hex cs, hex cs)

/-- A set written as ascending ranges with spaces or line feeds between them. -/
def read (table : String) : CodeSet :=
  ((Text.pieces (fun c => c = ' ' || c = '\n') table.toList).filter (· ≠ [])).map readRange

end CodeSet

end RegionNaming.Unicode
