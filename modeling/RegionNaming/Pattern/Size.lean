import RegionNaming.Pattern.Expr
import RegionNaming.Pattern.Utf8

/-! The size of the state machines of a pattern, which bounds what patterns are taken.

A pattern is run by a machine on the bytes of the text, and by another that reads them backwards.
A state takes 32 bytes, with 8 more for each further byte range that it tests and 4 for each state
that it splits into. -/

namespace RegionNaming.Pattern

open Unicode

def stateSize : Nat := 32

def splitSize (n : Nat) : Nat := stateSize + 4 * n

def testSize (n : Nat) : Nat := stateSize + 8 * n

inductive ByteTree where
  | node (edges : List (Range × ByteTree))
deriving BEq

namespace ByteTree

def ofSeq : ByteSeq → ByteTree
  | [] => node []
  | r :: rest => node [(r, ofSeq rest)]

/-- Adds a sequence behind the others. Only the latest branch is shared, since sequences come in
ascending order. -/
def add : ByteSeq → ByteTree → ByteTree
  | [], t => t
  | r :: rest, node edges =>
    match edges with
    | [] => node [(r, ofSeq rest)]
    | (q, t) :: more =>
      if q = r then node ((q, add rest t) :: more) else node ((r, ofSeq rest) :: (q, t) :: more)

mutual

/-- The nodes with edges, equal ones once, put before those of `seen`. -/
def nodes (seen : List ByteTree) : ByteTree → List ByteTree
  | node [] => seen
  | node (e :: es) =>
    if seen.contains (node (e :: es)) then seen else node (e :: es) :: nodesAll seen (e :: es)

def nodesAll (seen : List ByteTree) : List (Range × ByteTree) → List ByteTree
  | [] => seen
  | (_, t) :: rest => nodesAll (t.nodes seen) rest

end

def degree : ByteTree → Nat
  | node edges => edges.length

mutual

def edgeCount : ByteTree → Nat
  | node edges => edgeCountAll edges

def edgeCountAll : List (Range × ByteTree) → Nat
  | [] => 0
  | (_, t) :: rest => t.edgeCount + 1 + edgeCountAll rest

end

end ByteTree

def setTree (s : CodeSet) : ByteTree :=
  (setSeqs s).foldl (fun t seq => t.add seq) (.node [])

/-- The bytes for a set. ASCII needs one state with all ranges. Otherwise the forward machine shares
equal ends, and the backward machine, which tests one range in a state, shares what comes first. -/
def setSize (backward : Bool) (s : CodeSet) : Nat :=
  if s.isAscii then stateSize + testSize s.length
  else if backward then
    stateSize + splitSize (setSeqs s).length + stateSize * (setTree s).edgeCount
  else stateSize + ((setTree s).nodes []).foldr (fun t n => testSize t.degree + n) 0

def literals? (subs : List Expr) : Option (List (List Char)) :=
  subs.mapM fun
    | .literal cs => some cs
    | _ => none

/-- A tree of texts for choosing between them. The edges of a node are in groups; an earlier text
ends between two groups. -/
inductive TextTree where
  | node (groups : List (List (Nat × TextTree)))

namespace TextTree

def ofBytes : List Nat → TextTree
  | [] => node [[], []]
  | b :: rest => node [[(b, ofBytes rest)]]

def isLeaf : TextTree → Bool
  | node groups => groups.all (·.isEmpty)

mutual

def add : List Nat → TextTree → TextTree
  | [], node groups =>
    if groups.all (·.isEmpty) && 1 < groups.length then node groups else node ([] :: groups)
  | b :: rest, node (g :: groups) => node (addEdge b rest g :: groups)
  | b :: rest, node [] => node [[(b, ofBytes rest)]]

def addEdge (b : Nat) (rest : List Nat) : List (Nat × TextTree) → List (Nat × TextTree)
  | [] => [(b, ofBytes rest)]
  | (c, t) :: more => if b = c then (c, add rest t) :: more else (c, t) :: addEdge b rest more

end

mutual

def size : TextTree → Nat
  | node groups => splitSize (groups.length - 1 + (groups.filter (· ≠ [])).length) + sizeGroups groups

def sizeGroups : List (List (Nat × TextTree)) → Nat
  | [] => 0
  | g :: rest =>
    (match g.length with
      | 0 => 0
      | 1 => stateSize
      | n => testSize n) + sizeEdges g + sizeGroups rest

def sizeEdges : List (Nat × TextTree) → Nat
  | [] => 0
  | (_, t) :: rest => (if t.isLeaf then 0 else t.size) + sizeEdges rest

end

end TextTree

def textsSize (backward : Bool) (texts : List (List Char)) : Nat :=
  let bytes := texts.map fun cs =>
    let bs := cs.flatMap charBytes
    if backward then bs.reverse else bs
  stateSize + (bytes.foldl (fun t bs => t.add bs) (TextTree.node [[]])).size

mutual

/-- The bytes that an expression needs. The backward machine does not keep groups apart. -/
def Expr.size (backward : Bool) : Expr → Nat
  | .empty | .look _ => stateSize
  | .literal cs => stateSize * Expr.textLength cs
  | .set s => setSize backward s
  | .rep min max _ sub =>
    let n := sub.size backward
    match min, max with
    | 0, none =>
      if sub.minLength.any (0 < ·) then n + splitSize 2
      else n + splitSize 2 + splitSize 2 + stateSize
    | min, none => min * n + splitSize 2
    | 0, some 1 => n + splitSize 2 + stateSize
    | min, some max =>
      if min = max then max * n
      else (if min = 0 then stateSize else min * n) + stateSize + (max - min) * (splitSize 2 + n)
  | .capture _ sub => sub.size backward + if backward then 0 else 2 * stateSize
  | .seq subs => Expr.sizeAll backward subs
  | .alt subs =>
    match literals? subs with
    | some texts => textsSize backward texts
    | none => splitSize subs.length + stateSize + Expr.sizeAll backward subs

def Expr.sizeAll (backward : Bool) : List Expr → Nat
  | [] => 0
  | sub :: subs => sub.size backward + Expr.sizeAll backward subs

end

mutual

/-- Whether every match has to pass a place of the given kind before any character. -/
def Expr.startsAt (l : Look) : Expr → Bool
  | .look k => k = l
  | .rep min _ _ sub => 0 < min && sub.startsAt l
  | .capture _ sub => sub.startsAt l
  | .seq subs => Expr.startsAtSeq l subs
  | .alt subs => Expr.startsAtAll l subs
  | .empty | .literal _ | .set _ => false

def Expr.startsAtSeq (l : Look) : List Expr → Bool
  | [] => false
  | sub :: subs => sub.startsAt l || (sub.takesNothing && Expr.startsAtSeq l subs)

def Expr.startsAtAll (l : Look) : List Expr → Bool
  | [] => true
  | sub :: subs => sub.startsAt l && Expr.startsAtAll l subs

end

mutual

def Expr.reversed : Expr → Expr
  | .rep min max greedy sub => .rep min max greedy sub.reversed
  | .capture index sub => .capture index sub.reversed
  | .seq subs => .seq (Expr.reversedSeq [] subs)
  | .alt subs => .alt (Expr.reversedAll subs)
  | .empty => .empty
  | .literal cs => .literal cs.reverse
  | .set s => .set s
  | .look l => .look l

def Expr.reversedSeq (done : List Expr) : List Expr → List Expr
  | [] => done
  | sub :: subs => Expr.reversedSeq (sub.reversed :: done) subs

def Expr.reversedAll : List Expr → List Expr
  | [] => []
  | sub :: subs => sub.reversed :: Expr.reversedAll subs

end

/-- The bytes of a whole machine. A pattern that is not tied to the end of the text from which the
machine starts is searched for at every place. -/
def Expr.machineSize (backward : Bool) (e : Expr) : Nat :=
  let tied := if backward then e.reversed.startsAt .textEnd else e.startsAt .textStart
  let search := if tied then stateSize else splitSize 2 + stateSize + testSize 1
  search + e.size backward + (if backward then 0 else 2 * stateSize) + stateSize

def sizeLimit : Nat := 1048576

def Expr.fits (e : Expr) : Bool :=
  e.machineSize false ≤ sizeLimit && e.machineSize true ≤ sizeLimit

end RegionNaming.Pattern
