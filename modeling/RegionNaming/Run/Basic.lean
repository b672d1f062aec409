import RegionNaming.Diagnosis
import RegionNaming.Run.Job
import RegionNaming.Run.LogFilter

/-! A whole run: from arguments and files to a report, a log and a status. -/

namespace RegionNaming.Run

open Source

def diagnoseFiles (clock : Clock) (fs : Files) (options : Options.Lookup) :
    List String → Except RunError (List (Diagnostic Location))
  | [] => .ok []
  | path :: rest =>
    match fs.read path with
    | .error e => .error (.readSource path e)
    | .ok text =>
      match diagnoseFiles clock fs options rest with
      | .error e => .error e
      | .ok others => .ok (diagnoseText clock options path text ++ others)

def fileRecords (clock : Clock) (faults : Faults) (options : Options.Lookup) (path text : String) :
    List Log.Record :=
  let count := (diagnoseText clock options path text).length
  diagnoseRecords clock faults options ((regions text).map (·.name)) ++
    [⟨.debug, .run, path ++ ": " ++ toString count ++ " diagnostics"⟩]

def filesRecords (clock : Clock) (faults : Faults) (fs : Files) (options : Options.Lookup) :
    List String → List Log.Record
  | [] => []
  | path :: rest =>
    match fs.read path with
    | .error _ => []
    | .ok text =>
      fileRecords clock faults options path text ++ filesRecords clock faults fs options rest

namespace Job

def optionRecords (job : Job) : List Log.Record :=
  let file := match job.optionsFile with
    | some path => "Using options file " ++ path
    | none => "No options file found"
  let none := if job.options.isEmpty then ["No options set; using built-in defaults"] else []
  (file :: none).map (⟨.info, .run, ·⟩) ++
    job.options.entries.map fun (key, value) => ⟨.debug, .run, "Option " ++ key ++ " = " ++ value⟩

def records (job : Job) (clock : Clock) (faults : Faults) (fs : Files) : List Log.Record :=
  job.optionRecords ++ filesRecords clock faults fs job.options.get? job.files

def diagnostics (job : Job) (clock : Clock) (fs : Files) :
    Except RunError (List (Diagnostic Location)) :=
  diagnoseFiles clock fs job.options.get? job.files

end Job

structure Output where
  status : Nat
  stdout : String
  records : List Log.Record := []
  report : Option String := none
deriving DecidableEq, Repr

def versionLine : String := "region-ruler 0.1.0\n"

def usage : String := String.intercalate "\n" [
  "Check #region names against a naming policy",
  "",
  "Usage: region-ruler [OPTIONS] <FILES>...",
  "",
  "Options:",
  "      --config <FILE>          TOML file with region_ruler options",
  "  -o, --option <KEY=VALUE>     Override an option (e.g. 'allow_empty=false')",
  "      --format <FORMAT>        Output format: text or json",
  "      --deny-warnings          Exit with a failure status when anything is reported",
  "      --log-level <LOG_LEVEL>  Log level (trace, debug, info, warn, error)",
  "  -h, --help                   Print help",
  "  -V, --version                Print version",
  ""
]

/-- Carries out a job. A filter from outside goes before that of the job. -/
def Job.run (job : Job) (clock : Clock) (faults : Faults) (fs : Files) (filter : Option String) :
    Output :=
  let filter := LogFilter.read (filter.getD job.logFilter)
  let shown := (job.records clock faults fs).filter filter.shows
  match job.diagnostics clock fs with
  | .error e => { status := 1, stdout := "", records := shown, report := some (e.render faults) }
  | .ok diagnostics =>
    { status := if job.denyWarnings && !diagnostics.isEmpty then 1 else 0
      stdout := report job.format diagnostics
      records := shown }

def run (clock : Clock) (faults : Faults) (fs : Files) (args : List String) (filter : Option String) :
    Output :=
  match Arguments.parse args with
  | .error .version => { status := 0, stdout := versionLine }
  | .error .help => { status := 0, stdout := usage }
  | .error _ => { status := 2, stdout := "" }
  | .ok args =>
    match Job.ofArguments fs args with
    | .error e => { status := 1, stdout := "", report := some (e.render faults) }
    | .ok job => job.run clock faults fs filter

end RegionNaming.Run
