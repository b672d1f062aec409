import RegionNaming.Pattern.Expr
import RegionNaming.Unicode.Property

/-! Matching: the set of the places of a text that can be reached, kept as the bits of a number. -/

namespace RegionNaming.Pattern

open Unicode

def isWord (unicode : Bool) (c : Char) : Bool :=
  if unicode then word.contains c.toNat else c.isAlphanum || c = '_'

def Look.holds (l : Look) (before after : Option Char) : Bool :=
  match l with
  | .textStart => before.isNone
  | .textEnd => after.isNone
  | .lineStart crlf =>
    match before with
    | none => true
    | some c => c = '\n' || (crlf && c = '\r' && after ≠ some '\n')
  | .lineEnd crlf =>
    match after with
    | none => true
    | some c =>
      if crlf then c = '\r' || (c = '\n' && before ≠ some '\r') else c = '\n'
  | .word place unicode =>
    let b := before.any (isWord unicode)
    let a := after.any (isWord unicode)
    match place with
    | .edge => b != a
    | .notEdge => b == a
    | .start => !b && a
    | .finish => b && !a
    | .startHalf => !b
    | .finishHalf => !a

/-- The places of the characters that satisfy a test. Place `i` is bit `i`. -/
def charPlaces (p : Char → Bool) : List Char → Nat
  | [] => 0
  | c :: cs => 2 * charPlaces p cs + (p c).toNat

def lookPlaces (l : Look) (before : Option Char) : List Char → Nat
  | [] => (l.holds before none).toNat
  | c :: cs => 2 * lookPlaces l (some c) cs + (l.holds before (some c)).toNat

/-- Moves every place that lies in `mask` one character on. -/
def advance (mask places : Nat) : Nat := 2 * (places &&& mask)

def iterate (f : Nat → Nat) : Nat → Nat → Nat
  | 0, places => places
  | n + 1, places => if places = 0 then 0 else iterate f n (f places)

/-- Adds what can be reached in at most so many steps. `recent` are the places of `places` from
which no step was taken yet. -/
def spread (f : Nat → Nat) : Nat → (places recent : Nat) → Nat
  | 0, places, _ => places
  | n + 1, places, recent =>
    let next := f recent
    let fresh := next ^^^ (next &&& places)
    if fresh = 0 then places else spread f n (places ||| fresh) fresh

/-- An expression laid out over one text: each condition on characters or places has become the
set of the places where it holds. -/
inductive Route where
  | stay
  | stop
  | keep (mask : Nat)
  /-- Moves on from the places of a set. -/
  | move (mask : Nat)
  /-- So many rounds, and at most so many more. -/
  | rounds (count extra : Nat) (sub : Route)
  | both (first second : Route)
  | either (first second : Route)

def Route.follow : Route → Nat → Nat
  | .stay, places => places
  | .stop, _ => 0
  | .keep mask, places => places &&& mask
  | .move mask, places => advance mask places
  | .rounds count extra sub, places =>
    let start := iterate sub.follow count places
    spread sub.follow extra start start
  | .both first second, places => second.follow (first.follow places)
  | .either first second, places => first.follow places ||| second.follow places

mutual

def Expr.route (text : List Char) : Expr → Route
  | .empty => .stay
  | .literal cs => cs.foldr (fun c rest => .both (.move (charPlaces (· == c) text)) rest) .stay
  | .set s => .move (charPlaces (fun c => s.contains c.toNat) text)
  | .look l => .keep (lookPlaces l none text)
  | .rep min max _ sub =>
    let extra := match max with
      | some max => max - min
      | none => text.length + 1
    .rounds min extra (sub.route text)
  | .capture _ sub => sub.route text
  | .seq subs => Expr.routeSeq text subs
  | .alt subs => Expr.routeAlt text subs

def Expr.routeSeq (text : List Char) : List Expr → Route
  | [] => .stay
  | sub :: subs => .both (sub.route text) (Expr.routeSeq text subs)

def Expr.routeAlt (text : List Char) : List Expr → Route
  | [] => .stop
  | sub :: subs => .either (sub.route text) (Expr.routeAlt text subs)

end

def Expr.occursIn (e : Expr) (text : List Char) : Bool :=
  (e.route text).follow (Nat.pow 2 (text.length + 1) - 1) ≠ 0

end RegionNaming.Pattern
