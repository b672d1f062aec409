import RegionNaming.Rules.Basic

/-! Trying rules in the order of their priority. -/

namespace RegionNaming

structure RuleChain where
  rules : List Rule
deriving DecidableEq, Repr

namespace RuleChain

def place (r : Rule) : List Rule → List Rule
  | [] => [r]
  | s :: rest => if r.priority ≤ s.priority then r :: s :: rest else s :: place r rest

/-- The chain of some rules, repeated ones kept. Rules of equal priority keep their order. -/
def ofRules (rules : List Rule) : RuleChain := ⟨rules.foldr place []⟩

def standard : RuleChain := ofRules Rule.all

/-- The rules that are tried on a name, each with its verdict: those that apply, up to the first one
that passes. -/
def tryRules (clock : Clock) (p : Policy) (name : String) : List Rule → List (Rule × Verdict)
  | [] => []
  | r :: rest =>
    if r.applies p name then
      let verdict := r.verdict clock p name
      if verdict.isPass then [(r, verdict)] else (r, verdict) :: tryRules clock p name rest
    else tryRules clock p name rest

def tried (c : RuleChain) (clock : Clock) (p : Policy) (name : String) : List (Rule × Verdict) :=
  tryRules clock p name c.rules

/-- The failures that count against a name: none if some rule passes it, else all in their order. -/
def failures (c : RuleChain) (clock : Clock) (p : Policy) (name : String) : List Verdict :=
  let tried := c.tried clock p name
  if tried.any (·.2.isPass) then [] else tried.map (·.2)

def record (name : String) (tried : Rule × Verdict) : Log.Record :=
  ⟨.trace, .rules, "Rule " ++ tried.1.name ++ " on region '" ++ name ++ "': " ++
    if tried.2.isPass then "valid" else "invalid"⟩

/-- What is logged while rules are tried on a name: for each of them what it logs itself, then its
verdict. -/
def records (c : RuleChain) (clock : Clock) (p : Policy) (name : String) : List Log.Record :=
  (c.tried clock p name).flatMap fun tried => tried.1.records clock p name ++ [record name tried]

def diagnostics {L : Type} (c : RuleChain) (clock : Clock) (p : Policy) (name : String) (location : L) :
    List (Diagnostic L) :=
  (c.failures clock p name).filterMap (·.toDiagnostic? location)

end RuleChain

end RegionNaming
