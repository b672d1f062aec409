import RegionNaming.Rules.Verdict
import RegionNaming.Source.Region

/-! Reports of diagnostics, as lines of text and as JSON. -/

namespace RegionNaming

open Source

inductive Format where
  | text | json
deriving DecidableEq, Repr

namespace Report

structure Entry where
  path : String
  line : Nat
  column : Nat
  id : String
  severity : String
  title : String
  message : String
deriving DecidableEq, Repr

def Entry.ofDiagnostic (d : Diagnostic Location) : Entry where
  path := d.location.path
  line := d.location.line
  column := d.location.column
  id := d.id
  severity := d.finding.details.severity.name
  title := d.finding.details.title
  message := d.message

def textLine (d : Diagnostic Location) : String :=
  d.location.render ++ ": " ++ d.finding.details.severity.name ++ "[" ++ d.id ++ "]: " ++ d.message ++ "\n"

def text (diagnostics : List (Diagnostic Location)) : String := String.join (diagnostics.map textLine)

def hexDigit (n : Nat) : Char := if n < 10 then Char.ofNat (48 + n) else Char.ofNat (87 + n)

def escapeChar (c : Char) : List Char :=
  if c = '"' then ['\\', '"']
  else if c = '\\' then ['\\', '\\']
  else if c = '\x08' then ['\\', 'b']
  else if c = '\x0c' then ['\\', 'f']
  else if c = '\n' then ['\\', 'n']
  else if c = '\r' then ['\\', 'r']
  else if c = '\t' then ['\\', 't']
  else if c.toNat < 0x20 then
    ['\\', 'u', '0', '0', hexDigit (c.toNat / 16), hexDigit (c.toNat % 16)]
  else [c]

def quote (s : String) : String := "\"" ++ String.ofList (s.toList.flatMap escapeChar) ++ "\""

def Entry.fields (e : Entry) : List (String × String) := [
  ("path", quote e.path),
  ("line", toString e.line),
  ("column", toString e.column),
  ("id", quote e.id),
  ("severity", quote e.severity),
  ("title", quote e.title),
  ("message", quote e.message)
]

def fieldLine (field : String × String) : String := "    " ++ quote field.1 ++ ": " ++ field.2

def Entry.json (e : Entry) : String :=
  "  \x7b\n" ++ String.intercalate ",\n" (e.fields.map fieldLine) ++ "\n  \x7d"

def json (entries : List Entry) : String :=
  match entries with
  | [] => "[]\n"
  | entries => "[\n" ++ String.intercalate ",\n" (entries.map Entry.json) ++ "\n]\n"

end Report

/-- The report of some diagnostics. Only the JSON form goes through entries. -/
def report (format : Format) (diagnostics : List (Diagnostic Location)) : String :=
  match format with
  | .text => Report.text diagnostics
  | .json => Report.json (diagnostics.map Report.Entry.ofDiagnostic)

end RegionNaming
