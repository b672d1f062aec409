import RegionNaming.Text.Blank
import RegionNaming.Text.Split

/-! How the text of an option is read as a flag or as a list. -/

namespace RegionNaming.Options

open Text

def sameAscii (a b : List Char) : Bool := a.map Char.toLower == b.map Char.toLower

/-- A flag is `true` or `false` in any ASCII case, blanks around it allowed. -/
def flag? (value : String) : Option Bool :=
  let word := trimChars value.toList
  if sameAscii word "true".toList then some true
  else if sameAscii word "false".toList then some false
  else none

def delimiter (c : Char) : Bool := c = ',' || c = ';'

def itemChars (cs : List Char) : List (List Char) :=
  ((pieces delimiter cs).map trimChars).filter (· ≠ [])

def items (value : String) : List String := (itemChars value.toList).map String.ofList

end RegionNaming.Options
