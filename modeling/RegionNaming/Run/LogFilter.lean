import RegionNaming.Log
import RegionNaming.Options.Value

/-! Which log records are shown. -/

namespace RegionNaming.Run

open Text

abbrev Verbosity := Nat

def verbosityOf : Log.Level → Verbosity
  | .error => 1
  | .warn => 2
  | .info => 3
  | .debug => 4
  | .trace => 5

def verbosity? (word : List Char) : Option Verbosity :=
  ["off", "error", "warn", "info", "debug", "trace"].findIdx? fun w => Options.sameAscii w.toList word

structure Directive where
  start : List Char
  verbosity : Verbosity
deriving DecidableEq, Repr

/-- Directives; later ones take the place of earlier ones with the same start. -/
abbrev LogFilter := List Directive

namespace LogFilter

/-- Reads a directive: a level for all topics, a start for which everything is shown, or a start and
a level. Anything else is left out. -/
def directive? (cs : List Char) : Option Directive :=
  match pieces (· = '=') cs with
  | [word] =>
    match verbosity? word with
    | some v => some ⟨[], v⟩
    | none => some ⟨word, 5⟩
  | [start, level] =>
    let level := trimChars level
    if level = [] then some ⟨start, 5⟩ else (verbosity? level).map fun v => ⟨start, v⟩
  | _ => none

/-- Reads a filter: directives between commas. Without any, errors are shown. -/
def read (text : String) : LogFilter :=
  let words := ((pieces (· = ',') text.toList).map trimChars).filter (· ≠ [])
  match words.filterMap directive? with
  | [] => [⟨[], 1⟩]
  | directives => directives

/-- The directive with the longest start that fits a path; of equal ones the last. -/
def directiveFor (filter : LogFilter) (path : List Char) : Option Directive :=
  filter.foldl (fun best d =>
    if (after? d.start path).isNone then best
    else
      match best with
      | some b => if b.start.length ≤ d.start.length then some d else best
      | none => some d) none

def shows (filter : LogFilter) (r : Log.Record) : Bool :=
  match filter.directiveFor r.topic.path.toList with
  | some d => verbosityOf r.level ≤ d.verbosity
  | none => false

end LogFilter

def logLine (r : Log.Record) : String :=
  "[" ++ r.level.name ++ String.ofList (List.replicate (5 - r.level.name.length) ' ') ++ " " ++
    r.topic.path ++ "] " ++ Text.hang "    " r.text

end RegionNaming.Run
