import RegionNaming.Pattern.Term
import RegionNaming.Text.Blank

/-! Reading the smallest parts of a pattern: escapes and numbers. -/

namespace RegionNaming.Pattern.Reader

open Text

def skipFrom (comment : Bool) : List Char → List Char
  | [] => []
  | c :: rest =>
    if comment then skipFrom (c ≠ '\n') rest
    else if blank c then skipFrom false rest
    else if c = '#' then skipFrom true rest
    else c :: rest

def skip (spaced : Bool) (cs : List Char) : List Char := if spaced then skipFrom false cs else cs

def braced (spaced : Bool) : Nat → List Char → Option (List Char × List Char)
  | 0, _ => none
  | fuel + 1, cs =>
    match skip spaced cs with
    | [] => none
    | c :: rest =>
      if c = '\x7d' then some ([], rest)
      else (braced spaced fuel rest).map fun (body, rest) => (c :: body, rest)

def digits (spaced : Bool) : Nat → List Char → List Char × List Char
  | 0, cs => ([], cs)
  | _ + 1, [] => ([], [])
  | fuel + 1, c :: rest =>
    if c.isDigit then
      let (ds, rest) := digits spaced fuel (skip spaced rest)
      (c :: ds, rest)
    else ([], c :: rest)

def decimalValue (ds : List Char) : Nat := ds.foldl (fun n c => 10 * n + (c.toNat - 48)) 0

def decimal (spaced : Bool) (cs : List Char) : Option Nat × List Char :=
  let (ds, rest) := digits spaced (cs.length + 1) (trimFront cs)
  let n := decimalValue ds
  (if ds = [] || Nat.pow 2 32 ≤ n then none else some n, skip spaced (trimFront rest))

def hexDigit? (c : Char) : Option Nat :=
  if c.isDigit then some (c.toNat - 48)
  else if 'a' ≤ c && c ≤ 'f' then some (c.toNat - 87)
  else if 'A' ≤ c && c ≤ 'F' then some (c.toNat - 55)
  else none

def hexValue? (ds : List Char) : Option Nat :=
  ds.foldlM (fun n c => (hexDigit? c).map (16 * n + ·)) 0

def scalar? (n : Nat) : Option Char := if n.isValidChar then some (Char.ofNat n) else none

def fixedHex (spaced : Bool) : Nat → List Char → Option (List Char × List Char)
  | 0, cs => some ([], cs)
  | _ + 1, [] => none
  | n + 1, c :: rest => do
    let (ds, rest) ← fixedHex spaced n (skip spaced rest)
    some (c :: ds, rest)

def hexMark (spaced : Bool) (width : Nat) (cs : List Char) : Option (Mark × List Char) :=
  match skip spaced cs with
  | '\x7b' :: rest => do
    let (ds, rest) ← braced spaced (rest.length + 1) rest
    if ds = [] then none
    else
      let c ← (← hexValue? ds) |> scalar?
      some (⟨c, false⟩, skip spaced rest)
  | cs => do
    let (ds, rest) ← fixedHex spaced width cs
    let c ← (← hexValue? ds) |> scalar?
    some (⟨c, width = 2⟩, rest)

def cutAtWord (sep : List Char) : List Char → Option (List Char × List Char)
  | [] => none
  | c :: rest =>
    match after? sep (c :: rest) with
    | some tail => some ([], tail)
    | none => (cutAtWord sep rest).map fun (a, b) => (c :: a, b)

/-- A question for a property, written as a name or as a name and a value; an unequal sign turns
the answer round. -/
def propertyQuery (body : List Char) : PropertyQuery × Bool :=
  match cutAtWord ['!', '='] body with
  | some (p, v) => (.valued p v, true)
  | none =>
    match cutAt ':' body with
    | some (p, v) => (.valued p v, false)
    | none =>
      match cutAt '=' body with
      | some (p, v) => (.valued p v, false)
      | none => (.named body, false)

inductive Atom where
  | mark (m : Mark)
  | anchor (a : Anchor)
  | short (kind : ShortClass) (negated : Bool)
  | property (query : PropertyQuery) (negated : Bool)

def propertyAtom (spaced negated : Bool) (cs : List Char) : Option (Atom × List Char) :=
  match skip spaced cs with
  | [] => none
  | '\x7b' :: rest => do
    let (body, rest) ← braced spaced (rest.length + 1) rest
    let (query, turned) := propertyQuery body
    some (.property query (negated != turned), rest)
  | c :: rest => if c = '\\' then none else some (.property (.named [c]) negated, rest)

def edge? (word : List Char) : Option Anchor :=
  if word = "start".toList then some .wordStart
  else if word = "end".toList then some .wordEnd
  else if word = "start-half".toList then some .wordStartHalf
  else if word = "end-half".toList then some .wordEndHalf
  else none

/-- Reads what may follow a word edge. Braces with a word in them say which edge; braces with
anything else are left to be read as a count. -/
def edgeAtom (spaced : Bool) : List Char → Option (Atom × List Char)
  | '\x7b' :: rest =>
    match skip spaced rest with
    | [] => none
    | c :: _ =>
      if c.isAlpha || c = '-' then do
        let (word, rest) ← braced spaced (rest.length + 1) rest
        let a ← edge? word
        some (.anchor a, rest)
      else some (.anchor .wordEdge, '\x7b' :: rest)
  | cs => some (.anchor .wordEdge, cs)

/-- A character that stands for itself after a backslash: any ASCII character that is no letter, no
digit and no angle bracket. -/
def selfEscaped (c : Char) : Bool := c.toNat ≤ 0x7F && !c.isAlphanum && c ≠ '<' && c ≠ '>'

def escape (spaced : Bool) : List Char → Option (Atom × List Char)
  | [] => none
  | 'x' :: rest => (hexMark spaced 2 rest).map fun (m, rest) => (.mark m, rest)
  | 'u' :: rest => (hexMark spaced 4 rest).map fun (m, rest) => (.mark m, rest)
  | 'U' :: rest => (hexMark spaced 8 rest).map fun (m, rest) => (.mark m, rest)
  | 'p' :: rest => propertyAtom spaced false rest
  | 'P' :: rest => propertyAtom spaced true rest
  | 'd' :: rest => some (.short .digit false, rest)
  | 'D' :: rest => some (.short .digit true, rest)
  | 's' :: rest => some (.short .space false, rest)
  | 'S' :: rest => some (.short .space true, rest)
  | 'w' :: rest => some (.short .word false, rest)
  | 'W' :: rest => some (.short .word true, rest)
  | 'a' :: rest => some (.mark ⟨'\x07', false⟩, rest)
  | 'f' :: rest => some (.mark ⟨'\x0c', false⟩, rest)
  | 't' :: rest => some (.mark ⟨'\t', false⟩, rest)
  | 'n' :: rest => some (.mark ⟨'\n', false⟩, rest)
  | 'r' :: rest => some (.mark ⟨'\r', false⟩, rest)
  | 'v' :: rest => some (.mark ⟨'\x0b', false⟩, rest)
  | 'A' :: rest => some (.anchor .textStart, rest)
  | 'z' :: rest => some (.anchor .textEnd, rest)
  | 'b' :: rest => edgeAtom spaced rest
  | 'B' :: rest => some (.anchor .notWordEdge, rest)
  | '<' :: rest => some (.anchor .wordStart, rest)
  | '>' :: rest => some (.anchor .wordEnd, rest)
  | c :: rest => if selfEscaped c then some (.mark ⟨c, false⟩, rest) else none

end RegionNaming.Pattern.Reader
