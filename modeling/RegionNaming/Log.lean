/-! Log records, and the words that are quoted in them. -/

namespace RegionNaming

namespace Log

inductive Level where
  | trace | debug | info | warn | error
deriving DecidableEq, Repr

def Level.name : Level → String
  | .trace => "TRACE"
  | .debug => "DEBUG"
  | .info => "INFO"
  | .warn => "WARN"
  | .error => "ERROR"

inductive Topic where
  | run | policy | patterns | rules
deriving DecidableEq, Repr

def Topic.path : Topic → String
  | .run => "region_ruler::cli"
  | .policy => "region_ruler::policy"
  | .patterns => "region_ruler::policy::pattern"
  | .rules => "region_ruler::validation::engine"

structure Record where
  level : Level
  topic : Topic
  text : String
deriving DecidableEq, Repr

end Log

/-- What the readers of patterns and of documents say of a text that is not well formed. They word it
themselves, so it is a parameter of all that quotes it. -/
structure Faults where
  pattern : String → String
  document : String → String

end RegionNaming
