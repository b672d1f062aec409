import RegionNaming.Source.Line

/-! The region directives of a source text and where they stand. -/

namespace RegionNaming.Source

structure Location where
  path : String
  line : Nat
  column : Nat
deriving DecidableEq, Repr

def Location.render (l : Location) : String :=
  l.path ++ ":" ++ toString l.line ++ ":" ++ toString l.column

structure Region where
  name : String
  line : Nat
  column : Nat
deriving DecidableEq, Repr

def Region.location (r : Region) (path : String) : Location := ⟨path, r.line, r.column⟩

def Region.ofLine? (line : List Char × Nat) : Option Region :=
  match Line.ofChars line.1 with
  | .regionStart name column => some ⟨name, line.2, column⟩
  | .regionEnd | .other => none

def regions (text : String) : List Region :=
  ((Text.lines text.toList).zipIdx 1).filterMap Region.ofLine?

end RegionNaming.Source
