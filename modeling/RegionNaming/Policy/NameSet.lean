import RegionNaming.Policy.CaseMode

/-! Sets of names, with or without regard to letter case. -/

namespace RegionNaming

/-- A set of names, kept by the keys that they have in its mode; names of one key count once. -/
structure NameSet where
  mode : CaseMode
  keys : List String
deriving DecidableEq, Repr

namespace NameSet

def ofList (mode : CaseMode) (names : List String) : NameSet :=
  ⟨mode, (names.map mode.key).eraseDups⟩

def contains (s : NameSet) (name : String) : Bool := s.keys.contains (s.mode.key name)

def size (s : NameSet) : Nat := s.keys.length

def isEmpty (s : NameSet) : Bool := s.keys.isEmpty

end NameSet

end RegionNaming
