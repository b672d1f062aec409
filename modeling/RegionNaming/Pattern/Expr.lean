import RegionNaming.Pattern.Term

/-! Patterns in simplified form: characters, sets, places, repetition, sequence and choice. -/

namespace RegionNaming.Pattern

open Unicode

inductive WordPlace where
  | edge | notEdge | start | finish | startHalf | finishHalf
deriving DecidableEq, Repr

inductive Look where
  | textStart
  | textEnd
  /-- At the start of a line; a carriage return ends a line only if `crlf` holds. -/
  | lineStart (crlf : Bool)
  /-- At the end of a line; a carriage return ends a line only if `crlf` holds. -/
  | lineEnd (crlf : Bool)
  /-- By the word characters around it, those of Unicode or of ASCII. -/
  | word (place : WordPlace) (unicode : Bool)
deriving DecidableEq, Repr

inductive Expr where
  | empty
  /-- The given characters; there is at least one. -/
  | literal (cs : List Char)
  /-- One character of a set; the empty set matches nothing. -/
  | set (s : CodeSet)
  | look (l : Look)
  | rep (min : Nat) (max : Option Nat) (greedy : Bool) (sub : Expr)
  | capture (index : Nat) (sub : Expr)
  | seq (subs : List Expr)
  | alt (subs : List Expr)
deriving BEq, Repr

namespace Expr

def addLengths : Option Nat → Option Nat → Option Nat
  | some a, some b => some (a + b)
  | _, _ => none

def codeLength (n : Nat) : Nat :=
  if n ≤ 0x7F then 1 else if n ≤ 0x7FF then 2 else if n ≤ 0xFFFF then 3 else 4

def textLength (cs : List Char) : Nat := cs.foldr (fun c n => codeLength c.toNat + n) 0

mutual

def minLength : Expr → Option Nat
  | .empty | .look _ => some 0
  | .literal cs => some (textLength cs)
  | .set s => s.head?.map fun r => codeLength r.1
  | .rep min _ _ sub => sub.minLength.map (min * ·)
  | .capture _ sub => sub.minLength
  | .seq subs => minLengthSeq subs
  | .alt [] => none
  | .alt (sub :: subs) => minLengthAlt sub.minLength subs

def minLengthSeq : List Expr → Option Nat
  | [] => some 0
  | sub :: subs => addLengths sub.minLength (minLengthSeq subs)

def minLengthAlt (least : Option Nat) : List Expr → Option Nat
  | [] => least
  | sub :: subs =>
    match least, sub.minLength with
    | some a, some b => minLengthAlt (some (min a b)) subs
    | _, _ => none

end

mutual

/-- Whether every match is of the empty text, as far as the form shows. -/
def takesNothing : Expr → Bool
  | .empty | .look _ => true
  | .literal cs => cs.isEmpty
  | .set _ => false
  | .rep _ max _ sub =>
    match max with
    | some _ => sub.takesNothing
    | none => false
  | .capture _ sub => sub.takesNothing
  | .seq subs | .alt subs => takesNothingAll subs

def takesNothingAll : List Expr → Bool
  | [] => true
  | sub :: subs => sub.takesNothing && takesNothingAll subs

end

def ofSet (s : CodeSet) : Expr :=
  match s with
  | [(a, b)] => if a = b then .literal [Char.ofNat a] else .set s
  | _ => .set s

/-- Repeats an expression. What takes nothing need not be repeated more than once. -/
def ofRep (min : Nat) (max : Option Nat) (greedy : Bool) (sub : Expr) : Expr :=
  let (min, max) :=
    if sub.takesNothing then (Nat.min min 1, some ((max.map (Nat.min · 1)).getD 1)) else (min, max)
  if max = some 0 then .empty
  else if min = 1 && max = some 1 then sub
  else .rep min max greedy sub

/-- Appends an expression to the front of simplified parts; texts grow together and the empty
expression is dropped. -/
def consPart (e : Expr) (parts : List Expr) : List Expr :=
  match e, parts with
  | .empty, parts => parts
  | .literal a, .literal b :: rest => .literal (a ++ b) :: rest
  | e, parts => e :: parts

def seqParts : List Expr → List Expr
  | [] => []
  | .seq inner :: rest => inner.foldr consPart (seqParts rest)
  | e :: rest => consPart e (seqParts rest)

def ofSeq (subs : List Expr) : Expr :=
  match seqParts subs with
  | [] => .empty
  | [e] => e
  | es => .seq es

def altParts : List Expr → List Expr
  | [] => []
  | .alt inner :: rest => inner ++ altParts rest
  | e :: rest => e :: altParts rest

def char? : Expr → Option Nat
  | .literal [c] => some c.toNat
  | _ => none

def set? : Expr → Option CodeSet
  | .set s => some s
  | _ => none

def choiceSet? (subs : List Expr) : Option CodeSet :=
  match subs.mapM char? with
  | some codes => some (CodeSet.ofCodes codes)
  | none => (subs.mapM set?).map CodeSet.unionAll

def ofAltPlain (subs : List Expr) : Expr :=
  match altParts subs with
  | [] => .set []
  | [e] => e
  | es =>
    match choiceSet? es with
    | some s => ofSet s
    | none => .alt es

def parts? : Expr → Option (List Expr)
  | .seq es => some es
  | _ => none

def commonParts : List Expr → List Expr → List Expr
  | a :: as, b :: bs => if a == b then a :: commonParts as bs else []
  | _, _ => []

def commonStart (subs : List Expr) : List Expr :=
  match subs.mapM parts? with
  | some (first :: rest) => rest.foldl commonParts first
  | _ => []

/-- A choice. Parts with which all choices start are taken out in front of it. -/
def ofAlt (subs : List Expr) : Expr :=
  match ofAltPlain subs with
  | .alt es =>
    let common := commonStart es
    if common = [] then .alt es
    else
      let rests := es.map fun e => ofSeq (((parts? e).getD []).drop common.length)
      ofSeq (common ++ [ofAltPlain rests])
  | e => e

end Expr

end RegionNaming.Pattern
