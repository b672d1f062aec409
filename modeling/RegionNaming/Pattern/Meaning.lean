import RegionNaming.Pattern.Expr
import RegionNaming.Pattern.Reader
import RegionNaming.Unicode.Folding
import RegionNaming.Unicode.Query

/-! From a written pattern to its simplified form, under the modes in force at each place. -/

namespace RegionNaming.Pattern

open Unicode

/-- The modes in force. Whether blanks count was settled when the pattern was read. -/
structure Modes where
  ignoreCase : Bool
  multiLine : Bool := false
  dotAll : Bool := false
  swapGreed : Bool := false
  unicode : Bool := true
  crlf : Bool := false
deriving DecidableEq, Repr

namespace Modes

def switch (m : Modes) : Mode × Bool → Modes
  | (.ignoreCase, b) => { m with ignoreCase := b }
  | (.multiLine, b) => { m with multiLine := b }
  | (.dotAll, b) => { m with dotAll := b }
  | (.swapGreed, b) => { m with swapGreed := b }
  | (.unicode, b) => { m with unicode := b }
  | (.crlf, b) => { m with crlf := b }
  | (.spaced, _) => m

def switchAll (m : Modes) (s : Switches) : Modes := s.foldl switch m

end Modes

def asciiVariants (c : Char) : List Nat :=
  if c.isAlpha then [c.toUpper.toNat, c.toLower.toNat] else [c.toNat]

def foldAscii (s : CodeSet) : CodeSet :=
  let letters := (List.range 26).flatMap fun i => [(65 + i, 97 + i), (97 + i, 65 + i)]
  s.union (CodeSet.ofCodes (letters.filterMap fun (a, b) => if s.contains a then some b else none))

def Modes.fold (m : Modes) (s : CodeSet) : CodeSet :=
  if m.ignoreCase then if m.unicode then s.fold else foldAscii s else s

/-- Turns a class round if it is negated. Outside Unicode mode a class works on bytes, and one that
would hold bytes beyond ASCII is refused. -/
def Modes.settle (m : Modes) (negated : Bool) (s : CodeSet) : Option CodeSet :=
  if m.unicode then some (if negated then s.complement else s)
  else if negated || !s.isAscii then none
  else some s

def Modes.char? (m : Modes) (c : Mark) : Option Char :=
  if !m.unicode && c.byte && 0x7F < c.char.toNat then none else some c.char

def Modes.code? (m : Modes) (c : Mark) : Option Nat :=
  if !m.unicode && 0x7F < c.char.toNat then none else some c.char.toNat

def Modes.shortSet (m : Modes) : ShortClass → CodeSet
  | .digit => if m.unicode then Category.nd.set else CodeSet.read "30-39"
  | .space => if m.unicode then listed "whitespace" else CodeSet.read "9-D 20"
  | .word => if m.unicode then word else CodeSet.read "30-39 41-5A 5F 61-7A"

def Modes.propertySet? (m : Modes) (query : PropertyQuery) (negated : Bool) : Option CodeSet := do
  let s ← match query with
    | .named name => named? name
    | .valued property value => valued? property value
  if m.unicode then m.settle negated (m.fold s) else none

mutual

def ClassTerm.members (m : Modes) : ClassTerm → Option CodeSet
  | .mark c => (m.code? c).map CodeSet.single
  | .range first last => do
    let a ← m.code? first
    let b ← m.code? last
    some [(a, b)]
  | .posix members negated => m.settle negated (m.fold members)
  | .short kind negated => m.settle negated (m.shortSet kind)
  | .property query negated => m.propertySet? query negated
  | .nested negated body => do
    let s ← body.members m
    m.settle negated (m.fold s)
  | .union items => ClassTerm.membersAll m items
  | .op kind lhs rhs => do
    let a ← lhs.members m
    let b ← rhs.members m
    let a := m.fold a
    let b := m.fold b
    some (match kind with
      | .inter => a.inter b
      | .diff => a.diff b
      | .symmDiff => a.symmDiff b)

def ClassTerm.membersAll (m : Modes) : List ClassTerm → Option CodeSet
  | [] => some []
  | item :: items => do
    let a ← item.members m
    let b ← ClassTerm.membersAll m items
    some (a.union b)

end

def Modes.look (m : Modes) : Anchor → Look
  | .lineStart => if m.multiLine then .lineStart m.crlf else .textStart
  | .lineEnd => if m.multiLine then .lineEnd m.crlf else .textEnd
  | .textStart => .textStart
  | .textEnd => .textEnd
  | .wordEdge => .word .edge m.unicode
  | .notWordEdge => .word .notEdge m.unicode
  | .wordStart => .word .start m.unicode
  | .wordEnd => .word .finish m.unicode
  | .wordStartHalf => .word .startHalf m.unicode
  | .wordEndHalf => .word .finishHalf m.unicode

def Modes.charExpr (m : Modes) (c : Char) : Expr :=
  if !m.ignoreCase then .literal [c]
  else
    match if m.unicode then caseVariants c.toNat else asciiVariants c with
    | [_] => .literal [c]
    | codes => .set (CodeSet.ofCodes codes)

def Modes.anySet? (m : Modes) : Option CodeSet :=
  if !m.unicode then none
  else if m.dotAll then some CodeSet.full
  else if m.crlf then some (CodeSet.complement [(10, 10), (13, 13)])
  else some (CodeSet.complement [(10, 10)])

mutual

def Term.simplify (m : Modes) : Term → Option (Expr × Modes)
  | .empty => some (.empty, m)
  | .switch modes => some (.empty, m.switchAll modes)
  | .mark c => (m.char? c).map fun c => (m.charExpr c, m)
  | .any => m.anySet?.map fun s => (.ofSet s, m)
  | .anchor a => some (.look (m.look a), m)
  | .short kind negated => (m.settle negated (m.shortSet kind)).map fun s => (.ofSet s, m)
  | .property query negated => (m.propertySet? query negated).map fun s => (.ofSet s, m)
  | .bracket negated body => do
    let s ← body.members m
    let s ← m.settle negated (m.fold s)
    some (.ofSet s, m)
  | .rep min max greedy sub => do
    let (e, m') ← sub.simplify m
    some (.ofRep min max (greedy != m.swapGreed) e, m')
  | .capture index sub => do
    let (e, _) ← sub.simplify m
    some (.capture index e, m)
  | .group modes sub => do
    let (e, _) ← sub.simplify (m.switchAll modes)
    some (e, m)
  | .seq terms => do
    let (es, m) ← Term.simplifyAll m terms
    some (.ofSeq es, m)
  | .alt terms => do
    let (es, m) ← Term.simplifyAll m terms
    some (.ofAlt es, m)

def Term.simplifyAll (m : Modes) : List Term → Option (List Expr × Modes)
  | [] => some ([], m)
  | term :: terms => do
    let (e, m) ← term.simplify m
    let (es, m) ← Term.simplifyAll m terms
    some (e :: es, m)

end

def Expr.read (source : List Char) (ignoreCase : Bool) : Option Expr := do
  let t ← Term.read source
  let (e, _) ← t.simplify { ignoreCase }
  some e

end RegionNaming.Pattern
