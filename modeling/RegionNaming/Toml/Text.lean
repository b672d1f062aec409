import RegionNaming.Text.Split

/-! Quoted texts of TOML documents. -/

namespace RegionNaming.Toml

/-- Characters that may stand in comments and quoted texts: all but controls, a tab apart. -/
def plain (c : Char) : Bool := c = '\t' || (0x20 ≤ c.toNat && c.toNat ≠ 0x7F)

def space (c : Char) : Bool := c = ' ' || c = '\t'

def afterLineEnd? : List Char → Option (List Char)
  | '\n' :: rest => some rest
  | '\r' :: '\n' :: rest => some rest
  | _ => none

def hexChar? (width : Nat) (cs : List Char) : Option (Char × List Char) := do
  let ds := cs.take width
  if ds.length = width then
    let n ← ds.foldlM (fun n c => do
      if c.isDigit then some (16 * n + (c.toNat - 48))
      else if 'a' ≤ c && c ≤ 'f' then some (16 * n + (c.toNat - 87))
      else if 'A' ≤ c && c ≤ 'F' then some (16 * n + (c.toNat - 55))
      else none) 0
    if n.isValidChar then some (Char.ofNat n, cs.drop width) else none
  else none

def escaped? : List Char → Option (Char × List Char)
  | 'b' :: rest => some ('\x08', rest)
  | 't' :: rest => some ('\t', rest)
  | 'n' :: rest => some ('\n', rest)
  | 'f' :: rest => some ('\x0c', rest)
  | 'r' :: rest => some ('\r', rest)
  | 'e' :: rest => some ('\x1b', rest)
  | '"' :: rest => some ('"', rest)
  | '\\' :: rest => some ('\\', rest)
  | 'x' :: rest => hexChar? 2 rest
  | 'u' :: rest => hexChar? 4 rest
  | 'U' :: rest => hexChar? 8 rest
  | _ => none

/-- Reads a text in single quotation marks or apostrophes, from behind the first mark. Escapes count
only if `escapes` holds. `done` is what was read before, the latest first. -/
def lineText (mark : Char) (escapes : Bool) : Nat → List Char → List Char →
    Option (List Char × List Char)
  | 0, _, _ => none
  | _ + 1, _, [] => none
  | fuel + 1, done, c :: rest =>
    if c = mark then some (done.reverse, rest)
    else if escapes && c = '\\' then do
      let (d, rest) ← escaped? rest
      lineText mark escapes fuel (d :: done) rest
    else if plain c then lineText mark escapes fuel (c :: done) rest
    else none

/-- What follows a backslash that ends a line: all blanks and line ends are passed over. None if the
backslash does not end its line. -/
def afterLineBreak? (cs : List Char) : Option (List Char) :=
  match afterLineEnd? (cs.dropWhile space) with
  | some rest => some (skipBlank rest.length rest)
  | none => none
where
  /-- Passes over blanks and line ends. -/
  skipBlank : Nat → List Char → List Char
    | 0, cs => cs
    | fuel + 1, cs =>
      match afterLineEnd? (cs.dropWhile space) with
      | some rest => skipBlank fuel rest
      | none => cs.dropWhile space

def markRun (mark : Char) (cs : List Char) : Nat := ((cs.take 5).takeWhile (· = mark)).length

/-- Reads a text in threefold marks, from behind the first three. Of up to five marks at its end the
last three close it. -/
def blockText (mark : Char) (escapes : Bool) : Nat → List Char → List Char →
    Option (List Char × List Char)
  | 0, _, _ => none
  | _ + 1, _, [] => none
  | fuel + 1, done, c :: rest =>
    let run := markRun mark (c :: rest)
    if 3 ≤ run then
      some (done.reverse ++ List.replicate (run - 3) mark, (c :: rest).drop run)
    else if escapes && c = '\\' then
      match afterLineBreak? rest with
      | some rest => blockText mark escapes fuel done rest
      | none => do
        let (d, rest) ← escaped? rest
        blockText mark escapes fuel (d :: done) rest
    else if c = '\n' then blockText mark escapes fuel (c :: done) rest
    else if c = '\r' then
      match rest with
      | '\n' :: rest => blockText mark escapes fuel ('\n' :: '\r' :: done) rest
      | _ => none
    else if plain c then blockText mark escapes fuel (c :: done) rest
    else none

/-- Reads a quoted text of any kind. A line end right behind threefold marks is not part of it. -/
def quoted? (cs : List Char) : Option (String × List Char) :=
  match cs with
  | [] => none
  | mark :: rest =>
    if mark = '"' || mark = '\'' then
      let escapes := decide (mark = '"')
      let fuel := rest.length + 1
      let read := match rest with
        | a :: b :: body =>
          if a = mark && b = mark then
            blockText mark escapes fuel [] ((afterLineEnd? body).getD body)
          else lineText mark escapes fuel [] rest
        | _ => lineText mark escapes fuel [] rest
      read.map fun (cs, rest) => (String.ofList cs, rest)
    else none

end RegionNaming.Toml
