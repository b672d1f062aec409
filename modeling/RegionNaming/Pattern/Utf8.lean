import RegionNaming.Unicode.CodeSet

/-! Ranges of code points as sequences of byte ranges in UTF-8. -/

namespace RegionNaming.Pattern

open Unicode

abbrev ByteSeq := List Range

/-- The sequences for the numbers from `lo` to `hi` in `level` bytes of six bits behind a first
byte with the given mark. Sequences cover whole blocks where they can. -/
def byteSeqs : (level mark lo hi : Nat) → List ByteSeq
  | 0, mark, lo, hi => [[(mark + lo, mark + hi)]]
  | level + 1, mark, lo, hi =>
    let m := 64 ^ (level + 1)
    let lead := fun (a b : Nat) (tail : ByteSeq) => (mark + a, mark + b) :: tail
    if lo / m = hi / m then
      (byteSeqs level 0x80 (lo % m) (hi % m)).map (lead (lo / m) (lo / m))
    else
      let first := if lo % m = 0 then []
        else (byteSeqs level 0x80 (lo % m) (m - 1)).map (lead (lo / m) (lo / m))
      let last := if hi % m = m - 1 then []
        else (byteSeqs level 0x80 0 (hi % m)).map (lead (hi / m) (hi / m))
      let a := if lo % m = 0 then lo / m else lo / m + 1
      let b := if hi % m = m - 1 then hi / m else hi / m - 1
      let middle := if a ≤ b then [lead a b (List.replicate (level + 1) (0x80, 0xBF))] else []
      first ++ middle ++ last

def clip (lo hi : Nat) (r : Range) : Option Range :=
  if max lo r.1 ≤ min hi r.2 then some (max lo r.1, min hi r.2) else none

def rangeSeqs (r : Range) : List ByteSeq :=
  let part := fun (lo hi level mark : Nat) =>
    ((clip lo hi r).map fun s => byteSeqs level mark s.1 s.2).getD []
  part 0 0x7F 0 0 ++ part 0x80 0x7FF 1 0xC0 ++ part 0x800 0xD7FF 2 0xE0 ++
    part 0xE000 0xFFFF 2 0xE0 ++ part 0x10000 0x10FFFF 3 0xF0

def setSeqs (s : CodeSet) : List ByteSeq := s.flatMap rangeSeqs

def charBytes (c : Char) : List Nat := ((rangeSeqs (c.toNat, c.toNat)).headD []).map (·.1)

end RegionNaming.Pattern
