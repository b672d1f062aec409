import RegionNaming.Run.Basic

/-! The command line. Files that a run may look at are read beforehand; the run itself is pure, and how
long its attempts last is not measured. -/

namespace RegionNaming.Main

open Run

def readError : IO.Error → ReadError
  | .noFileOrDirectory _ _ _ => .missing
  | .inappropriateType _ 20 _ => .notDirectory
  | .inappropriateType _ 21 _ => .directory
  | e => .other (toString e)

def readBytes (path : String) : IO (Except ReadError ByteArray) := do
  try
    return .ok (← IO.FS.readBinFile path)
  catch e =>
    return .error (readError e)

def isFile (path : String) : IO Bool := do
  try
    let info ← (← IO.FS.realPath path).metadata
    return info.type == .file
  catch _ =>
    return false

def userDir : IO (Option String) := do
  match ← IO.getEnv "XDG_CONFIG_HOME" with
  | some dir => if dir.startsWith "/" then return some dir else inHome
  | none => inHome
where
  /-- The usual place inside the home directory. -/
  inHome : IO (Option String) := do
    return (← IO.getEnv "HOME").map fun home => Files.join home ".config"

def paths (user : Option String) (args : List String) : List String :=
  match Arguments.parse args with
  | .error _ => []
  | .ok args =>
    (match args.config with
      | some path => [path]
      | none => Files.optionPaths user ".") ++ args.files

def faults : Faults where
  pattern source := "    " ++ source ++ "\nerror: malformed pattern"
  document _ := "malformed document"

end RegionNaming.Main

open RegionNaming Run in
def main (args : List String) : IO UInt32 := do
  let user ← Main.userDir
  let seen ← (Main.paths user args).mapM fun path => do
    return (path, ← Main.readBytes path, ← Main.isFile path)
  let fs : Files :=
    { bytes path := ((seen.lookup path).map (·.1)).getD (.error .missing)
      isFile path := ((seen.lookup path).map (·.2)).getD false
      userDir := user }
  let out := run Clock.still Main.faults fs args (← IO.getEnv "RUST_LOG")
  for r in out.records do
    IO.eprintln (logLine r)
  IO.print out.stdout
  for text in out.report do
    IO.eprintln text
  if out.status = 2 then IO.eprint usage
  return out.status.toUInt32
