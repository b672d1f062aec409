import RegionNaming.Text.Blank
import RegionNaming.Text.Split

/-! One line of source text read as a region directive. -/

namespace RegionNaming.Source

open Text

inductive Line where
  /-- A region opens; the name is trimmed and may be empty, the column counts characters from one. -/
  | regionStart (name : String) (column : Nat)
  /-- A region closes; whatever label follows is not kept. -/
  | regionEnd
  | other
deriving DecidableEq, Repr

def startWord : List Char := "#region".toList

def endWord : List Char := "#endregion".toList

/-- What follows `word` when it stands alone: at the end of the text or before a blank. -/
def afterWord (word cs : List Char) : Option (List Char) :=
  match after? word cs with
  | some [] => some []
  | some (c :: rest) => if blank c then some (c :: rest) else none
  | none => none

def Line.ofChars (cs : List Char) : Line :=
  let body := trimFront cs
  match afterWord startWord body with
  | some rest => .regionStart (String.ofList (trimChars rest)) ((cs.takeWhile blank).length + 1)
  | none => if (afterWord endWord body).isSome then .regionEnd else .other

/-- Reads a line. A line feed inside it counts as a blank. -/
def Line.classify (line : String) : Line := Line.ofChars line.toList

end RegionNaming.Source
