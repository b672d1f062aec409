import RegionNaming.Text.Split
import RegionNaming.Toml.Value

/-! Words that stand for numbers, truth values, dates and times. -/

namespace RegionNaming.Toml

open Text

def digit? (c : Char) : Option Nat :=
  if c.isDigit then some (c.toNat - 48)
  else if 'a' ≤ c && c ≤ 'f' then some (c.toNat - 87)
  else if 'A' ≤ c && c ≤ 'F' then some (c.toNat - 55)
  else none

def digitsValue? (base : Nat) (cs : List Char) : Option Nat :=
  cs.foldlM (fun n c => do
    let d ← digit? c
    if d < base then some (base * n + d) else none) 0

/-- Drops the low lines between digits. There is at least one digit, and a low line has a digit on
either side. -/
def plainDigits? (cs : List Char) : Option (List Char) :=
  let groups := pieces (· = '_') cs
  if groups.any (·.isEmpty) then none else some groups.flatten

def wholeDigits? (cs : List Char) : Option (List Char) := do
  let ds ← plainDigits? cs
  if ds.all Char.isDigit && (ds.length = 1 || ds.head? ≠ some '0') then some ds else none

def signOf : List Char → Option Bool × List Char
  | '+' :: rest => (some false, rest)
  | '-' :: rest => (some true, rest)
  | cs => (none, cs)

def bounded? (n : Int) : Option Value :=
  if -(Int.pow 2 63) ≤ n && n < Int.pow 2 63 then some (.integer n) else none

def basedInteger? (base : Nat) (cs : List Char) : Option Value := do
  let ds ← plainDigits? cs
  let n ← digitsValue? base ds
  bounded? n

def integer? (cs : List Char) : Option Value := do
  let (sign, body) := signOf cs
  let ds ← wholeDigits? body
  let n ← digitsValue? 10 ds
  bounded? (if sign = some true then -(n : Int) else n)

def exponent? (cs : List Char) : Option Int := do
  let (sign, body) := signOf cs
  let ds ← plainDigits? body
  if ds.all Char.isDigit then
    let n ← digitsValue? 10 ds
    some (if sign = some true then -(n : Int) else n)
  else none

def cutExponent (cs : List Char) : List Char × Option (List Char) :=
  match (cutAt 'e' cs).orElse fun _ => cutAt 'E' cs with
  | some (a, b) => (a, some b)
  | none => (cs, none)

def float? (cs : List Char) : Option Value := do
  let (sign, body) := signOf cs
  let negative := sign = some true
  if body = "inf".toList then some (.float (.infinite negative))
  else if body = "nan".toList then some (.float .nan)
  else
    let (number, exponent) := cutExponent body
    let (whole, part) := match cutAt '.' number with
      | some (a, b) => (a, some b)
      | none => (number, none)
    if part.isNone && exponent.isNone then none
    else
      let whole ← wholeDigits? whole
      let part ← match part with
        | none => some []
        | some p => plainDigits? p
      if !part.all Char.isDigit then none
      else
        let e ← match exponent with
          | none => some 0
          | some e => exponent? e
        let digits := whole ++ part
        let n ← digitsValue? 10 digits
        let x ← Number.Binary64.ofDecimal? negative n digits.length (e - part.length)
        some (.float x)

def fixed? (width : Nat) (cs : List Char) : Option (Nat × List Char) :=
  let ds := cs.take width
  if ds.length = width && ds.all Char.isDigit then
    (digitsValue? 10 ds).map fun n => (n, cs.drop width)
  else none

def isLeap (year : Nat) : Bool := year % 4 = 0 && (year % 100 ≠ 0 || year % 400 = 0)

def daysIn (year month : Nat) : Nat :=
  if month = 2 then if isLeap year then 29 else 28
  else if month = 4 || month = 6 || month = 9 || month = 11 then 30
  else 31

def date? (cs : List Char) : Option (Date × List Char) := do
  let (year, cs) ← fixed? 4 cs
  let cs ← after? ['-'] cs
  let (month, cs) ← fixed? 2 cs
  let cs ← after? ['-'] cs
  let (day, cs) ← fixed? 2 cs
  if 1 ≤ month && month ≤ 12 && 1 ≤ day && day ≤ daysIn year month then some (⟨year, month, day⟩, cs)
  else none

/-- The nanoseconds of a fraction; digits beyond the ninth do not count. -/
def nanoseconds? (ds : List Char) : Option Nat :=
  digitsValue? 10 ((ds ++ List.replicate 9 '0').take 9)

def time? (cs : List Char) : Option (Time × List Char) := do
  let (hour, cs) ← fixed? 2 cs
  let cs ← after? [':'] cs
  let (minute, cs) ← fixed? 2 cs
  if 23 < hour || 59 < minute then none
  else
    match cs with
    | ':' :: cs =>
      let (second, cs) ← fixed? 2 cs
      if 60 < second then none
      else
        match cs with
        | '.' :: cs =>
          let ds := cs.takeWhile Char.isDigit
          if ds = [] then none
          else
            let n ← nanoseconds? ds
            some (⟨hour, minute, some second, n⟩, cs.dropWhile Char.isDigit)
        | cs => some (⟨hour, minute, some second, 0⟩, cs)
    | cs => some (⟨hour, minute, none, 0⟩, cs)

def offset? (cs : List Char) : Option (Option Offset) :=
  match cs with
  | [] => some none
  | ['Z'] | ['z'] => some (some .utc)
  | c :: cs =>
    if c = '+' || c = '-' then do
      let (hour, cs) ← fixed? 2 cs
      let cs ← after? [':'] cs
      let (minute, cs) ← fixed? 2 cs
      let total := 60 * hour + minute
      if cs = [] && minute ≤ 59 && total ≤ 1440 then
        some (some (.minutes (if c = '-' then -(total : Int) else total)))
      else none
    else none

def dateTime? (cs : List Char) : Option Value :=
  match date? cs with
  | some (d, []) => some (.dateTime (.date d))
  | some (d, sep :: cs) =>
    if sep = 'T' || sep = 't' || sep = ' ' then do
      let (t, cs) ← time? cs
      let offset ← offset? cs
      some (.dateTime (.both d t offset))
    else none
  | none =>
    match time? cs with
    | some (t, []) => some (.dateTime (.time t))
    | _ => none

def scalar? (cs : List Char) : Option Value :=
  if cs = "true".toList then some (.boolean true)
  else if cs = "false".toList then some (.boolean false)
  else
    match cs with
    | '0' :: 'x' :: rest => basedInteger? 16 rest
    | '0' :: 'o' :: rest => basedInteger? 8 rest
    | '0' :: 'b' :: rest => basedInteger? 2 rest
    | cs => ((integer? cs).orElse fun _ => float? cs).orElse fun _ => dateTime? cs

end RegionNaming.Toml
