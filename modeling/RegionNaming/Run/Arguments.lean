import RegionNaming.Report
import RegionNaming.Text.Split

/-! The arguments of the command line. -/

namespace RegionNaming.Run

structure Arguments where
  /-- The files to check; there is at least one. -/
  files : List String
  /-- The options file to read instead of one that is found. -/
  config : Option String := none
  /-- Assignments over the options of the file, in their order. -/
  options : List String := []
  format : Format := .text
  denyWarnings : Bool := false
  logFilter : String := "warn"
deriving DecidableEq, Repr

inductive ArgumentError where
  | unknown
  | invalidValue
  | conflict
  | tooManyValues
  | noFiles
  | help
  | version
deriving DecidableEq, Repr

namespace Arguments

inductive Slot where
  | config | option | format | logLevel
deriving DecidableEq, Repr

inductive Switch where
  | denyWarnings | help | version
deriving DecidableEq, Repr

/-- What was read and not yet carried out: it takes effect when the next thing is read. -/
inductive Pending where
  | nothing
  | value (slot : Slot) (given : Option String)
  /-- Files, the latest first. -/
  | files (paths : List String)
deriving DecidableEq, Repr

structure State where
  files : List String := []
  config : Option String := none
  options : List String := []
  format : Option Format := none
  denyWarnings : Bool := false
  logFilter : Option String := none
  pending : Pending := .nothing

def format? : String → Option Format
  | "text" => some .text
  | "json" => some .json
  | _ => none

/-- Gives an option its value. All but the assignments may be given once; a path is not empty. -/
def State.assign (s : State) (slot : Slot) (v : String) : Except ArgumentError State :=
  match slot with
  | .option => .ok { s with options := s.options ++ [v] }
  | .config =>
    if s.config.isSome then .error .conflict
    else if v = "" then .error .invalidValue
    else .ok { s with config := some v }
  | .format =>
    if s.format.isSome then .error .conflict
    else
      match format? v with
      | some f => .ok { s with format := some f }
      | none => .error .invalidValue
  | .logLevel =>
    if s.logFilter.isSome then .error .conflict else .ok { s with logFilter := some v }

def State.settle (s : State) : Except ArgumentError State :=
  let done := { s with pending := .nothing }
  match s.pending with
  | .nothing => .ok done
  | .value _ none => .error .invalidValue
  | .value slot (some v) => done.assign slot v
  | .files paths =>
    if paths.contains "" then .error .invalidValue
    else .ok { done with files := done.files ++ paths.reverse }

def State.flip (s : State) (w : Switch) : Except ArgumentError State := do
  let s ← s.settle
  match w with
  | .help => .error .help
  | .version => .error .version
  | .denyWarnings =>
    if s.denyWarnings then .error .conflict else .ok { s with denyWarnings := true }

def State.offer (s : State) (slot : Slot) (given : Option String) : Except ArgumentError State := do
  let s ← s.settle
  match given with
  | some v => s.assign slot v
  | none => .ok { s with pending := .value slot none }

def State.addFile (s : State) (path : String) : Except ArgumentError State :=
  match s.pending with
  | .files paths => .ok { s with pending := .files (path :: paths) }
  | .nothing | .value _ _ => do
    let s ← s.settle
    .ok { s with pending := .files [path] }

def long? : String → Option (Slot ⊕ Switch)
  | "config" => some (.inl .config)
  | "option" => some (.inl .option)
  | "format" => some (.inl .format)
  | "log-level" => some (.inl .logLevel)
  | "deny-warnings" => some (.inr .denyWarnings)
  | "help" => some (.inr .help)
  | "version" => some (.inr .version)
  | _ => none

/-- Reads a long option, from behind its hyphens. A wrong name or a value where none belongs counts
before what is pending. -/
def State.readLong (s : State) (body : List Char) : Except ArgumentError State :=
  let (name, given) := match Text.cutAt '=' body with
    | some (name, v) => (name, some (String.ofList v))
    | none => (body, none)
  match long? (String.ofList name), given with
  | none, _ => .error .unknown
  | some (.inr _), some _ => .error .tooManyValues
  | some (.inr w), none => s.flip w
  | some (.inl slot), given => s.offer slot given

/-- Reads short options, from behind their hyphen. The rest of the word is the value of an option
that takes one, without an equals sign before it. -/
def State.readShort (s : State) : List Char → Except ArgumentError State
  | [] => .ok s
  | c :: rest =>
    match c with
    | 'h' => s.flip .help
    | 'V' => s.flip .version
    | 'o' =>
      match rest with
      | [] => s.offer .option none
      | '=' :: v => s.offer .option (some (String.ofList v))
      | v => s.offer .option (some (String.ofList v))
    | _ => .error .unknown

/-- Reads one argument before any double hyphen. A lone hyphen is a file or a value. -/
def State.read (s : State) (arg : String) : Except ArgumentError State :=
  match arg.toList with
  | '-' :: '-' :: body => s.readLong body
  | '-' :: c :: body => s.readShort (c :: body)
  | _ =>
    match s.pending with
    | .value slot none => .ok { s with pending := .value slot (some arg) }
    | .value _ (some _) | .nothing | .files _ => s.addFile arg

def State.readAll (s : State) (onlyFiles : Bool) : List String → Except ArgumentError State
  | [] => .ok s
  | arg :: args =>
    if onlyFiles then do
      let s ← s.addFile arg
      s.readAll true args
    else if arg = "--" then s.readAll true args
    else do
      let s ← s.read arg
      s.readAll false args

def parse (args : List String) : Except ArgumentError Arguments := do
  let s ← ({} : State).readAll false args
  let s ← s.settle
  if s.files = [] then .error .noFiles
  else .ok {
    files := s.files
    config := s.config
    options := s.options
    format := s.format.getD .text
    denyWarnings := s.denyWarnings
    logFilter := s.logFilter.getD "warn" }

end Arguments

end RegionNaming.Run
