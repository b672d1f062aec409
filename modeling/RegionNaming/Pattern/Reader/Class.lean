import RegionNaming.Pattern.Reader.Escape
import RegionNaming.Unicode.Property

/-! Reading the classes that patterns write in brackets. -/

namespace RegionNaming.Pattern.Reader

open Text Unicode

def posixMembers? (name : List Char) : Option CodeSet :=
  match String.ofList name with
  | "alnum" => some (CodeSet.read "30-39 41-5A 61-7A")
  | "alpha" => some (CodeSet.read "41-5A 61-7A")
  | "ascii" => some CodeSet.ascii
  | "blank" => some (CodeSet.read "9 20")
  | "cntrl" => some (CodeSet.read "0-1F 7F")
  | "digit" => some (CodeSet.read "30-39")
  | "graph" => some (CodeSet.read "21-7E")
  | "lower" => some (CodeSet.read "61-7A")
  | "print" => some (CodeSet.read "20-7E")
  | "punct" => some (CodeSet.read "21-2F 3A-40 5B-60 7B-7E")
  | "space" => some (CodeSet.read "9-D 20")
  | "upper" => some (CodeSet.read "41-5A")
  | "word" => some (CodeSet.read "30-39 41-5A 5F 61-7A")
  | "xdigit" => some (CodeSet.read "30-39 41-46 61-66")
  | _ => none

def posixClass? (cs : List Char) : Option (ClassTerm × List Char) :=
  match cs with
  | ':' :: rest => do
    let (negated, rest) := match rest with
      | '^' :: rest => (true, rest)
      | rest => (false, rest)
    let (name, rest) ← cutAt ':' rest
    let rest ← after? [']'] rest
    let members ← posixMembers? name
    some (.posix members negated, rest)
  | _ => none

def leadingHyphens (spaced : Bool) : Nat → List Char → List ClassTerm × List Char
  | 0, cs => ([], cs)
  | fuel + 1, cs =>
    match skip spaced cs with
    | '-' :: rest =>
      let (items, rest) := leadingHyphens spaced fuel rest
      (.mark ⟨'-', false⟩ :: items, rest)
    | cs => ([], cs)

/-- Reads the start of a class, from behind its bracket: whether it is negated, and the characters
that stand for themselves only at this place. -/
def classOpening (spaced : Bool) (cs : List Char) : Bool × List ClassTerm × List Char :=
  let (negated, cs) := match skip spaced cs with
    | '^' :: rest => (true, rest)
    | cs => (false, cs)
  let (items, cs) := leadingHyphens spaced (cs.length + 1) cs
  match items, cs with
  | [], ']' :: rest => (negated, [.mark ⟨']', false⟩], rest)
  | items, cs => (negated, items, cs)

def Atom.toItem? : Atom → Option ClassTerm
  | .mark m => some (.mark m)
  | .short kind negated => some (.short kind negated)
  | .property query negated => some (.property query negated)
  | .anchor _ => none

def Atom.toMark? : Atom → Option Mark
  | .mark m => some m
  | .short _ _ | .property _ _ | .anchor _ => none

def classAtom (spaced : Bool) : List Char → Option (Atom × List Char)
  | [] => none
  | '\\' :: rest => escape spaced rest
  | c :: rest => some (.mark ⟨c, false⟩, rest)

/-- Reads an item or a range. A hyphen before a hyphen or before the closing bracket makes no
range. -/
def classRange (spaced : Bool) (cs : List Char) : Option (ClassTerm × List Char) := do
  let (first, rest) ← classAtom spaced cs
  match skip spaced rest with
  | [] => none
  | '-' :: tail =>
    match skip spaced tail with
    | [] => none
    | c :: more =>
      if c = ']' || c = '-' then
        let item ← first.toItem?
        some (item, '-' :: tail)
      else
        let (last, rest) ← classAtom spaced (c :: more)
        let a ← first.toMark?
        let b ← last.toMark?
        if a.char ≤ b.char then some (.range a b, rest) else none
  | rest =>
    let item ← first.toItem?
    some (item, rest)

def closeItems (pending : Option (SetOp × ClassTerm)) (items : List ClassTerm) : ClassTerm :=
  match pending with
  | none => .ofUnion items.reverse
  | some (kind, lhs) => .op kind lhs (.ofUnion items.reverse)

/-- Reads the items of a class up to its closing bracket. Operators bind all alike, from the left.
`items` were read before, the latest first; `fuel` has to exceed the length of the text. -/
def classItems (spaced : Bool) : Nat → Option (SetOp × ClassTerm) → List ClassTerm → List Char →
    Option (ClassTerm × List Char)
  | 0, _, _, _ => none
  | fuel + 1, pending, items, cs =>
    match skip spaced cs with
    | [] => none
    | ']' :: rest => some (closeItems pending items, rest)
    | '[' :: rest =>
      match posixClass? rest with
      | some (item, rest) => classItems spaced fuel pending (item :: items) rest
      | none => do
        let (negated, first, rest) := classOpening spaced rest
        let (body, rest) ← classItems spaced fuel none first.reverse rest
        classItems spaced fuel pending (.nested negated body :: items) rest
    | '&' :: '&' :: rest =>
      classItems spaced fuel (some (.inter, closeItems pending items)) [] rest
    | '-' :: '-' :: rest =>
      classItems spaced fuel (some (.diff, closeItems pending items)) [] rest
    | '~' :: '~' :: rest =>
      classItems spaced fuel (some (.symmDiff, closeItems pending items)) [] rest
    | cs => do
      let (item, rest) ← classRange spaced cs
      classItems spaced fuel pending (item :: items) rest

def bracket (spaced : Bool) (cs : List Char) : Option (Bool × ClassTerm × List Char) := do
  let (negated, first, rest) := classOpening spaced cs
  let (body, rest) ← classItems spaced (rest.length + 1) none first.reverse rest
  some (negated, body, rest)

end RegionNaming.Pattern.Reader
