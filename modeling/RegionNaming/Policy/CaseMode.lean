import RegionNaming.Unicode.Uppercase

/-! Whether letter case counts when names are compared. -/

namespace RegionNaming

inductive CaseMode where
  | exact
  /-- Character by character after each is put in upper case. -/
  | ignored
deriving DecidableEq, Repr

namespace CaseMode

def ofSensitive (caseSensitive : Bool) : CaseMode := if caseSensitive then exact else ignored

def key (m : CaseMode) (name : String) : String :=
  match m with
  | .exact => name
  | .ignored => String.ofList (name.toList.map Unicode.upper)

end CaseMode

end RegionNaming
