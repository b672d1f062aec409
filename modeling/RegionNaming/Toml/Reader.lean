import RegionNaming.Toml.Draft
import RegionNaming.Toml.Scalar
import RegionNaming.Toml.Text

/-! Reading TOML documents, by version 1.1 of the format. -/

namespace RegionNaming.Toml

def nestingLimit : Nat := 80

def afterComment? : List Char → Option (List Char)
  | [] => some []
  | '\n' :: rest => some ('\n' :: rest)
  | '\r' :: '\n' :: rest => some ('\r' :: '\n' :: rest)
  | c :: rest => if plain c then afterComment? rest else none

def restOfLine? (cs : List Char) : Option (List Char) := do
  let cs ← match cs.dropWhile space with
    | '#' :: rest => afterComment? rest
    | cs => some cs
  match cs with
  | [] => some []
  | cs => afterLineEnd? cs

def skipLines? : Nat → List Char → Option (List Char)
  | 0, cs => some cs
  | fuel + 1, cs =>
    match cs.dropWhile space with
    | '#' :: rest => do
      let rest ← afterComment? rest
      skipLines? fuel rest
    | cs =>
      match afterLineEnd? cs with
      | some rest => skipLines? fuel rest
      | none => some cs

def bare (c : Char) : Bool := c.isAlphanum || c = '_' || c = '-'

def keyPart? (cs : List Char) : Option (String × List Char) :=
  match cs with
  | [] => none
  | c :: rest =>
    if c = '"' || c = '\'' then
      (lineText c (decide (c = '"')) (rest.length + 1) [] rest).map fun (k, rest) =>
        (String.ofList k, rest)
    else
      let k := cs.takeWhile bare
      if k = [] then none else some (String.ofList k, cs.dropWhile bare)

def keyParts? : Nat → List Char → Option (List String × List Char)
  | 0, _ => none
  | fuel + 1, cs => do
    let (k, rest) ← keyPart? (cs.dropWhile space)
    match rest.dropWhile space with
    | '.' :: rest =>
      let (ks, rest) ← keyParts? fuel rest
      some (k :: ks, rest)
    | rest => some ([k], rest)

def key? (cs : List Char) : Option ((List String × String) × List Char) := do
  let (ks, rest) ← keyParts? (cs.length + 1) cs
  let last ← ks.getLast?
  if nestingLimit ≤ ks.length - 1 then none else some ((ks.dropLast, last), rest)

def wordChar (c : Char) : Bool := c.isAlphanum || c = '+' || c = '-' || c = '_' || c = '.' || c = ':'

/-- A word that stands for a value, and the rest. One space may part a date from a time. -/
def word (cs : List Char) : List Char × List Char :=
  let w := cs.takeWhile wordChar
  match date? w, cs.dropWhile wordChar with
  | some (_, []), ' ' :: c :: rest =>
    if c.isDigit then
      (w ++ ' ' :: (c :: rest).takeWhile wordChar, (c :: rest).dropWhile wordChar)
    else (w, ' ' :: c :: rest)
  | _, rest => (w, rest)

mutual

def value? : Nat → Nat → List Char → Option (Value × List Char)
  | 0, _, _ => none
  | fuel + 1, depth, cs =>
    match cs with
    | [] => none
    | c :: rest =>
      if c = '"' || c = '\'' then (quoted? cs).map fun (s, rest) => (.string s, rest)
      else if c = '[' then
        match depth with
        | 0 => none
        | depth + 1 => items? fuel depth [] rest
      else if c = '\x7b' then
        match depth with
        | 0 => none
        | depth + 1 => fields? fuel depth [] rest
      else
        let (w, rest) := word cs
        (scalar? w).map fun v => (v, rest)

def items? : Nat → Nat → List Value → List Char → Option (Value × List Char)
  | 0, _, _, _ => none
  | fuel + 1, depth, done, cs => do
    match ← skipLines? cs.length cs with
    | ']' :: rest => some (.array done.reverse, rest)
    | cs =>
      let (v, rest) ← value? fuel depth cs
      match ← skipLines? rest.length rest with
      | ',' :: rest => items? fuel depth (v :: done) rest
      | ']' :: rest => some (.array (v :: done).reverse, rest)
      | _ => none

def fields? : Nat → Nat → Drafts → List Char → Option (Value × List Char)
  | 0, _, _, _ => none
  | fuel + 1, depth, done, cs => do
    match ← skipLines? cs.length cs with
    | '\x7d' :: rest => some (.table (Draft.finishAll done), rest)
    | cs =>
      let ((path, key), rest) ← key? cs
      match rest with
      | '=' :: rest =>
        let (v, rest) ← value? fuel depth (rest.dropWhile space)
        let done ← Draft.addValue path key v done
        match ← skipLines? rest.length rest with
        | ',' :: rest => fields? fuel depth done rest
        | '\x7d' :: rest => some (.table (Draft.finishAll done), rest)
        | _ => none
      | _ => none

end

def document? : Nat → (header : List String) → Drafts → List Char → Option Drafts
  | 0, _, _, _ => none
  | fuel + 1, header, done, cs => do
    match ← skipLines? cs.length cs with
    | [] => some done
    | '[' :: '[' :: rest =>
      let ((path, key), rest) ← key? rest
      match rest with
      | ']' :: ']' :: rest =>
        let done ← Draft.openItem path key done
        let rest ← restOfLine? rest
        document? fuel (path ++ [key]) done rest
      | _ => none
    | '[' :: rest =>
      let ((path, key), rest) ← key? rest
      match rest with
      | ']' :: rest =>
        let done ← Draft.openTable path key done
        let rest ← restOfLine? rest
        document? fuel (path ++ [key]) done rest
      | _ => none
    | cs =>
      let ((path, key), rest) ← key? cs
      match rest with
      | '=' :: rest =>
        let (v, rest) ← value? (rest.length + 1) nestingLimit (rest.dropWhile space)
        let done ← Draft.within (Draft.addValue path key v) header done
        let rest ← restOfLine? rest
        document? fuel header done rest
      | _ => none

/-- Reads a document: the entries of its table in the order of their keys. A byte order mark at its
start does not count. -/
def read? (text : String) : Option (List (String × Value)) :=
  let cs := match text.toList with
    | '\uFEFF' :: rest => rest
    | cs => cs
  (document? (cs.length + 1) [] [] cs).map Draft.finishAll

end RegionNaming.Toml
