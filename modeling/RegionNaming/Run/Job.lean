import RegionNaming.Log
import RegionNaming.Options.Assignment
import RegionNaming.Options.Document
import RegionNaming.Run.Arguments
import RegionNaming.Run.Files

/-! What a run has to do, from its arguments and the options file. -/

namespace RegionNaming.Run

open Options

inductive RunError where
  | readOptions (path : String) (cause : ReadError)
  | parseOptions (path : String) (cause : DocumentError)
  | badOption (text : String) (cause : AssignmentError)
  | readSource (path : String) (cause : ReadError)
deriving DecidableEq, Repr

namespace RunError

def context : RunError → String
  | .readOptions path _ => "Failed to read options file " ++ path
  | .parseOptions path _ => "Failed to parse options file " ++ path
  | .badOption text _ => "Invalid --option '" ++ text ++ "'"
  | .readSource path _ => "Failed to read " ++ path

def causes (faults : Faults) : RunError → List String
  | .readOptions _ cause | .readSource _ cause => [cause.message]
  | .parseOptions _ (.malformed text) => [faults.document text]
  | .parseOptions _ (.flatten e) => e.messages
  | .badOption _ cause => [cause.message]

def causeLines (number : Option Nat) (cause : String) : String :=
  match number with
  | some n => "    " ++ toString n ++ ": " ++ Text.hang "       " cause
  | none => "    " ++ Text.hang "    " cause

def render (faults : Faults) (e : RunError) : String :=
  let numbered := match e.causes faults with
    | [cause] => [causeLines none cause]
    | causes => causes.zipIdx.map fun (cause, n) => causeLines (some n) cause
  "Error: " ++ String.intercalate "\n" (e.context :: "" :: "Caused by:" :: numbered)

end RunError

structure Job where
  /-- The files to check, in their order; one may come more than once. -/
  files : List String
  optionsFile : Option String
  options : Store
  format : Format
  denyWarnings : Bool
  logFilter : String

namespace Job

def loadOptions (fs : Files) (path : String) : Except RunError Store :=
  match fs.read path with
  | .error e => .error (.readOptions path e)
  | .ok text => (Store.ofDocument text).mapError (.parseOptions path)

def assignAll (s : Store) : List String → Except RunError Store
  | [] => .ok s
  | text :: rest =>
    match s.assign text with
    | .error e => .error (.badOption text e)
    | .ok s => assignAll s rest

/-- The job of some arguments. Assignments go over the options of the file. -/
def ofArguments (fs : Files) (args : Arguments) : Except RunError Job := do
  let optionsFile := args.config.orElse fun _ => fs.findOptions "."
  let base ← match optionsFile with
    | some path => loadOptions fs path
    | none => .ok Store.empty
  let overrides ← assignAll Store.empty args.options
  .ok {
    files := args.files
    optionsFile
    options := base.merge overrides
    format := args.format
    denyWarnings := args.denyWarnings
    logFilter := args.logFilter }

end Job

end RegionNaming.Run
