import RegionNaming.Rules.Finding
import RegionNaming.Text.Blank

/-! What a rule says about a region, and what is reported of it. -/

namespace RegionNaming

def emptyArgument : String := "[empty]"

inductive Verdict where
  | pass
  | fail (finding : Finding) (name : String)
deriving DecidableEq, Repr

structure Diagnostic (L : Type) where
  finding : Finding
  location : L
  argument : String
deriving DecidableEq, Repr

namespace Verdict

def isPass : Verdict → Bool
  | .pass => true
  | .fail _ _ => false

def finding? : Verdict → Option Finding
  | .pass => none
  | .fail finding _ => some finding

def toDiagnostic? {L : Type} (location : L) : Verdict → Option (Diagnostic L)
  | .pass => none
  | .fail finding name =>
    some ⟨finding, location, if Text.isBlank name then emptyArgument else name⟩

end Verdict

namespace Diagnostic

variable {L : Type}

def id (d : Diagnostic L) : String := d.finding.details.id

def message (d : Diagnostic L) : String := d.finding.details.message d.argument

def mapLocation {M : Type} (f : L → M) (d : Diagnostic L) : Diagnostic M :=
  ⟨d.finding, f d.location, d.argument⟩

end Diagnostic

end RegionNaming
