import RegionNaming.Pattern.Reader.Class

/-! Reading a pattern: groups, repetition, sequences and alternatives. -/

namespace RegionNaming.Pattern.Reader

open Text

def mode? : Char → Option Mode
  | 'i' => some .ignoreCase
  | 'm' => some .multiLine
  | 's' => some .dotAll
  | 'U' => some .swapGreed
  | 'u' => some .unicode
  | 'R' => some .crlf
  | 'x' => some .spaced
  | _ => none

/-- The switches of a mode group up to its colon or closing parenthesis, that character, and the
rest. A mode may come once, a hyphen once and not last. `hyphen` says whether one came before, and
`open?` whether it was the character before. -/
def switches (hyphen open? : Bool) (seen : List Mode) :
    List Char → Option (Switches × Char × List Char)
  | [] => none
  | c :: rest =>
    if c = ':' || c = ')' then if open? then none else some ([], c, rest)
    else if c = '-' then if hyphen then none else switches true true seen rest
    else do
      let m ← mode? c
      if seen.contains m then none
      else
        let (ms, last, rest) ← switches hyphen false (m :: seen) rest
        some ((m, !hyphen) :: ms, last, rest)

def nameChar (first : Bool) (c : Char) : Bool :=
  c = '_' ||
    if first then Unicode.alphabetic.contains c.toNat
    else c = '.' || c = '[' || c = ']' || Unicode.alphanumeric.contains c.toNat

def groupName (first : Bool) : List Char → Option (List Char × List Char)
  | [] => none
  | c :: rest =>
    if c = '>' then some ([], rest)
    else if nameChar first c then do
      let (name, rest) ← groupName false rest
      some (c :: name, rest)
    else none

structure State where
  /-- Whether blanks and comments are passed over. -/
  spaced : Bool
  names : List (List Char)
  count : Nat

inductive Opening where
  /-- Modes are switched for what follows; nothing is grouped. -/
  | switch (modes : Switches)
  | capture (index : Nat)
  /-- A group without a number that may switch modes for what is in it. -/
  | group (modes : Switches)

/-- Whether a text asks for looking ahead or behind, which no pattern may. -/
def looksAround (cs : List Char) : Bool :=
  ["?=", "?!", "?<=", "?<!"].any fun s => (after? s.toList cs).isSome

def opening (st : State) (cs : List Char) : Option (Opening × State × List Char) :=
  let cs := skip st.spaced cs
  if looksAround cs then none
  else
    match (after? "?P<".toList cs).orElse fun _ => after? "?<".toList cs with
    | some rest => do
      let (name, rest) ← groupName true rest
      if name = [] || st.names.contains name then none
      else
        let st := { st with names := name :: st.names, count := st.count + 1 }
        some (.capture st.count, st, rest)
    | none =>
      match cs with
      | '?' :: rest => do
        let (modes, last, rest) ← switches false false [] rest
        if last = ':' then some (.group modes, st, rest)
        else if modes = [] then none
        else some (.switch modes, st, rest)
      | _ =>
        let st := { st with count := st.count + 1 }
        some (.capture st.count, st, cs)

def spacedAfter (modes : Switches) (spaced : Bool) : Bool :=
  modes.foldl (fun s m => if m.1 = .spaced then m.2 else s) spaced

def repeatable : List Term → Option (Term × List Term)
  | [] => none
  | .empty :: _ => none
  | .switch _ :: _ => none
  | t :: rest => some (t, rest)

def greedy : List Char → Bool × List Char
  | '?' :: rest => (false, rest)
  | cs => (true, cs)

/-- Reads a count in braces, from behind the opening brace: least and greatest number of times. -/
def count (spaced : Bool) (cs : List Char) : Option ((Nat × Option Nat) × List Char) := do
  let cs := skip spaced cs
  let (first, cs) := decimal spaced cs
  match cs with
  | ',' :: rest =>
    let lo ← first
    match skip spaced rest with
    | '}' :: rest => some ((lo, none), rest)
    | rest =>
      let (last, rest) := decimal spaced rest
      let hi ← last
      match rest with
      | '}' :: rest => if lo ≤ hi then some ((lo, some hi), rest) else none
      | _ => none
  | '}' :: rest =>
    let n ← first
    some ((n, some n), rest)
  | _ => none

def Atom.toTerm : Atom → Term
  | .mark m => .mark m
  | .anchor a => .anchor a
  | .short kind negated => .short kind negated
  | .property query negated => .property query negated

def primitive (spaced : Bool) : List Char → Option (Term × List Char)
  | [] => none
  | '\\' :: rest => (escape spaced rest).map fun (a, rest) => (a.toTerm, rest)
  | '.' :: rest => some (.any, rest)
  | '^' :: rest => some (.anchor .lineStart, rest)
  | '$' :: rest => some (.anchor .lineEnd, rest)
  | c :: rest => some (.mark ⟨c, false⟩, rest)

/-- Reads terms up to the end of the text, or up to the parenthesis that closes the group when
`inner` holds. `branches` and `terms` are what was read of it before, the latest first; `fuel` has to
exceed the length of the text. -/
def terms (inner : Bool) : Nat → State → (branches terms : List Term) → List Char →
    Option (Term × State × List Char)
  | 0, _, _, _, _ => none
  | fuel + 1, st, branches, done, cs =>
    match skip st.spaced cs with
    | [] =>
      if inner then none
      else some (.ofAlt (Term.ofSeq done.reverse :: branches).reverse, st, [])
    | ')' :: rest =>
      if inner then some (.ofAlt (Term.ofSeq done.reverse :: branches).reverse, st, rest) else none
    | '|' :: rest => terms inner fuel st (Term.ofSeq done.reverse :: branches) [] rest
    | '(' :: rest => do
      let (head, st, rest) ← opening st rest
      match head with
      | .switch modes =>
        let st := { st with spaced := spacedAfter modes st.spaced }
        terms inner fuel st branches (.switch modes :: done) rest
      | .capture index =>
        let (sub, st', rest) ← terms true fuel st [] [] rest
        terms inner fuel { st' with spaced := st.spaced } branches (.capture index sub :: done) rest
      | .group modes =>
        let within := { st with spaced := spacedAfter modes st.spaced }
        let (sub, st', rest) ← terms true fuel within [] [] rest
        terms inner fuel { st' with spaced := st.spaced } branches (.group modes sub :: done) rest
    | '[' :: rest => do
      let (negated, body, rest) ← bracket st.spaced rest
      terms inner fuel st branches (.bracket negated body :: done) rest
    | '?' :: rest => do
      let (t, done) ← repeatable done
      let (greedy, rest) := greedy rest
      terms inner fuel st branches (.rep 0 (some 1) greedy t :: done) rest
    | '*' :: rest => do
      let (t, done) ← repeatable done
      let (greedy, rest) := greedy rest
      terms inner fuel st branches (.rep 0 none greedy t :: done) rest
    | '+' :: rest => do
      let (t, done) ← repeatable done
      let (greedy, rest) := greedy rest
      terms inner fuel st branches (.rep 1 none greedy t :: done) rest
    | '\x7b' :: rest => do
      let (t, done) ← repeatable done
      let ((lo, hi), rest) ← count st.spaced rest
      let (greedy, rest) := greedy (skip st.spaced rest)
      terms inner fuel st branches (.rep lo hi greedy t :: done) rest
    | cs => do
      let (t, rest) ← primitive st.spaced cs
      terms inner fuel st branches (t :: done) rest

end Reader

def depthLimit : Nat := 250

def Term.read (source : List Char) : Option Term := do
  let (t, _, _) ← Reader.terms false (source.length + 1) ⟨false, [], 0⟩ [] [] source
  if t.depth ≤ depthLimit then some t else none

end RegionNaming.Pattern
