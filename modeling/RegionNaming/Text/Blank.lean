/-! Blank characters, trimming and blank texts. -/

namespace RegionNaming.Text

def blank (c : Char) : Bool :=
  let n := c.toNat
  (9 ≤ n && n ≤ 13) || n == 0x20 || n == 0x85 || n == 0xA0 || n == 0x1680 ||
    (0x2000 ≤ n && n ≤ 0x200A) || n == 0x2028 || n == 0x2029 || n == 0x202F ||
    n == 0x205F || n == 0x3000

def trimFront (cs : List Char) : List Char := cs.dropWhile blank

def trimBack (cs : List Char) : List Char := (cs.reverse.dropWhile blank).reverse

def trimChars (cs : List Char) : List Char := trimBack (trimFront cs)

def trim (s : String) : String := String.ofList (trimChars s.toList)

/-- A text of blanks only; the empty text is one. -/
def isBlank (s : String) : Bool := s.toList.all blank

@[simp] theorem toList_trim (s : String) : (trim s).toList = trimChars s.toList := by
  simp [trim]

end RegionNaming.Text
