import RegionNaming.Policy.Basic
import RegionNaming.Rules.Verdict

/-! The rules for the names of regions. -/

namespace RegionNaming

inductive Rule where
  | empty
  | noConfig
  | allowedNames
  | pattern
deriving DecidableEq, Repr

namespace Rule

/-- All rules; the order in which they are tried comes from `priority`. -/
def all : List Rule := [.pattern, .allowedNames, .noConfig, .empty]

def name : Rule → String
  | .empty => "Empty"
  | .noConfig => "NoConfig"
  | .allowedNames => "AllowedNames"
  | .pattern => "Pattern"

def ofName? (name : String) : Option Rule := all.find? (·.name == name)

def priority : Rule → Nat
  | .empty => 0
  | .noConfig => 1
  | .allowedNames => 2
  | .pattern => 5

def finding : Rule → Finding
  | .empty => .empty
  | .noConfig => .noConfig
  | .allowedNames => .invalidName
  | .pattern => .invalidPattern

def applies (r : Rule) (p : Policy) (name : String) : Bool :=
  match r with
  | .empty => Text.isBlank name && !p.allowEmpty
  | .noConfig => !Text.isBlank name && !p.custom
  | .allowedNames => !Text.isBlank name && p.customNames && !p.names.isEmpty
  | .pattern => !Text.isBlank name && p.customPatterns && !p.patterns.isEmpty

def passes (r : Rule) (clock : Clock) (p : Policy) (name : String) : Bool :=
  match r with
  | .empty => false
  | .noConfig | .allowedNames => p.names.contains name
  | .pattern => p.patterns.any fun pattern => clock.attempt name pattern = .matched

/-- The verdict of a rule, whether it applies or not. -/
def verdict (r : Rule) (clock : Clock) (p : Policy) (name : String) : Verdict :=
  if r.passes clock p name then .pass
  else .fail r.finding (if r = .empty then emptyArgument else name)

def records (r : Rule) (clock : Clock) (p : Policy) (name : String) : List Log.Record :=
  match r with
  | .pattern => clock.records name p.patterns
  | .empty | .noConfig | .allowedNames => []

end Rule

end RegionNaming
