import RegionNaming.Options.Store

/-! Options written as `KEY=VALUE`. -/

namespace RegionNaming.Options

open Text

inductive AssignmentError where
  | noEquals (text : String)
  | noKey (text : String)
deriving DecidableEq, Repr

def AssignmentError.message : AssignmentError → String
  | .noEquals text => "Expected KEY=VALUE, got '" ++ text ++ "'"
  | .noKey text => "Missing option key in '" ++ text ++ "'"

/-- Key and value of an assignment: what stands before the first equals sign, as it is, and what
stands after it, trimmed. -/
def readAssignment (text : String) : Except AssignmentError Entry :=
  match cutAt '=' text.toList with
  | none => .error (.noEquals text)
  | some (key, value) =>
    if trimChars key = [] then .error (.noKey text)
    else .ok (String.ofList key, String.ofList (trimChars value))

def Store.assign (s : Store) (text : String) : Except AssignmentError Store :=
  (readAssignment text).map fun (key, value) => s.insert key value

end RegionNaming.Options
