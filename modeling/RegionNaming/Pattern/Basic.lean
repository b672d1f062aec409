import RegionNaming.Log
import RegionNaming.Number.Duration
import RegionNaming.Pattern.Match
import RegionNaming.Pattern.Meaning
import RegionNaming.Pattern.Size

/-! Patterns of allowed names. -/

namespace RegionNaming

inductive PatternError where
  | malformed
  | tooLarge
deriving DecidableEq, Repr

def PatternError.message (fault : String) : PatternError → String
  | .malformed => "regex parse error:\n" ++ fault
  | .tooLarge => "Compiled regex exceeds size limit of " ++ toString Pattern.sizeLimit ++ " bytes."

inductive Attempt where
  | matched | notMatched | timedOut
deriving DecidableEq, Repr

structure NamePattern where
  source : String
  expr : Pattern.Expr
  /-- The nanoseconds that an attempt may last. -/
  budget : Nat

namespace NamePattern

def defaultBudget : Nat := 100000000

def compileWithin (budget : Nat) (source : String) (caseSensitive : Bool) :
    Except PatternError NamePattern :=
  match Pattern.Expr.read source.toList !caseSensitive with
  | none => .error .malformed
  | some expr => if expr.fits then .ok ⟨source, expr, budget⟩ else .error .tooLarge

def compile (source : String) (caseSensitive : Bool) : Except PatternError NamePattern :=
  compileWithin defaultBudget source caseSensitive

/-- Looks for a pattern anywhere in a name. The search runs to its end, and only then the time that has
elapsed is held against the budget. -/
def attempt (p : NamePattern) (elapsed : Nat) (name : String) : Attempt :=
  if p.budget < elapsed then .timedOut
  else if p.expr.occursIn name.toList then .matched
  else .notMatched

def overrun? (p : NamePattern) (elapsed : Nat) (name : String) : Option Log.Record :=
  if p.budget < elapsed then some ⟨.warn, .patterns,
    "Pattern '" ++ p.source ++ "' exceeded its " ++ Duration.render p.budget ++ " budget on '" ++ name ++
      "' (" ++ Duration.render elapsed ++ "); treating as no match"⟩
  else none

end NamePattern

/-- How many nanoseconds an attempt to find a pattern in a name lasts, each time it is made. -/
abbrev Clock := NamePattern → String → Nat

namespace Clock

def still : Clock := fun _ _ => 0

variable (clock : Clock) (name : String)

def attempt (p : NamePattern) : Attempt := p.attempt (clock p name) name

/-- The patterns that are tried on a name, up to the first that is found in it. -/
def tried : List NamePattern → List NamePattern
  | [] => []
  | p :: rest => if clock.attempt name p = .matched then [p] else p :: tried rest

def records (patterns : List NamePattern) : List Log.Record :=
  (clock.tried name patterns).filterMap fun p => p.overrun? (clock p name) name

end Clock

end RegionNaming
