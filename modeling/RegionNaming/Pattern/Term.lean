import RegionNaming.Unicode.CodeSet

/-! Patterns as they are written. -/

namespace RegionNaming.Pattern

inductive Mode where
  /-- `i`: letter case does not count. -/
  | ignoreCase
  /-- `m`: line anchors hold at every line. -/
  | multiLine
  /-- `s`: the dot matches a line feed too. -/
  | dotAll
  /-- `U`: greedy and lazy repetition change places. -/
  | swapGreed
  /-- `u`: classes are those of Unicode, not of ASCII. -/
  | unicode
  /-- `R`: a carriage return ends a line too. -/
  | crlf
  /-- `x`: blanks and comments in the pattern do not count. -/
  | spaced
deriving DecidableEq, Repr

abbrev Switches := List (Mode × Bool)

inductive Anchor where
  | lineStart | lineEnd | textStart | textEnd | wordEdge | notWordEdge
  | wordStart | wordEnd | wordStartHalf | wordEndHalf
deriving DecidableEq, Repr

inductive ShortClass where
  | digit | space | word
deriving DecidableEq, Repr

inductive PropertyQuery where
  | named (name : List Char)
  | valued (property value : List Char)
deriving DecidableEq, Repr

inductive SetOp where
  | inter | diff | symmDiff
deriving DecidableEq, Repr

/-- A character of a pattern. One written by two hexadecimal digits stands for a byte where
patterns are not read in Unicode mode. -/
structure Mark where
  char : Char
  byte : Bool
deriving DecidableEq, Repr

inductive ClassTerm where
  | mark (m : Mark)
  | range (first last : Mark)
  | posix (members : Unicode.CodeSet) (negated : Bool)
  | short (kind : ShortClass) (negated : Bool)
  | property (query : PropertyQuery) (negated : Bool)
  | nested (negated : Bool) (body : ClassTerm)
  | union (items : List ClassTerm)
  | op (kind : SetOp) (lhs rhs : ClassTerm)
deriving Repr

inductive Term where
  | empty
  | switch (modes : Switches)
  | mark (m : Mark)
  | any
  | anchor (a : Anchor)
  | short (kind : ShortClass) (negated : Bool)
  | property (query : PropertyQuery) (negated : Bool)
  | bracket (negated : Bool) (body : ClassTerm)
  | rep (min : Nat) (max : Option Nat) (greedy : Bool) (sub : Term)
  | capture (index : Nat) (sub : Term)
  | group (modes : Switches) (sub : Term)
  | seq (terms : List Term)
  | alt (terms : List Term)
deriving Repr

mutual

def ClassTerm.depth : ClassTerm → Nat
  | .nested _ body => body.depth + 1
  | .union items => ClassTerm.depthAll items + 1
  | .op _ lhs rhs => max lhs.depth rhs.depth + 1
  | .mark _ | .range _ _ | .posix _ _ | .short _ _ | .property _ _ => 0

def ClassTerm.depthAll : List ClassTerm → Nat
  | [] => 0
  | item :: items => max item.depth (ClassTerm.depthAll items)

end

mutual

/-- How deep a pattern is nested. Sequences and alternatives count like groups. -/
def Term.depth : Term → Nat
  | .bracket _ body => body.depth + 1
  | .rep _ _ _ sub | .capture _ sub | .group _ sub => sub.depth + 1
  | .seq terms | .alt terms => Term.depthAll terms + 1
  | .empty | .switch _ | .mark _ | .any | .anchor _ | .short _ _ | .property _ _ => 0

def Term.depthAll : List Term → Nat
  | [] => 0
  | term :: terms => max term.depth (Term.depthAll terms)

end

def Term.ofSeq : List Term → Term
  | [] => .empty
  | [t] => t
  | ts => .seq ts

def Term.ofAlt : List Term → Term
  | [] => .empty
  | [t] => t
  | ts => .alt ts

def ClassTerm.ofUnion : List ClassTerm → ClassTerm
  | [t] => t
  | ts => .union ts

end RegionNaming.Pattern
