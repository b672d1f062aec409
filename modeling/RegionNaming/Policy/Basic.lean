import RegionNaming.Log
import RegionNaming.Options.Store
import RegionNaming.Options.Value
import RegionNaming.Pattern.Basic
import RegionNaming.Policy.NameSet

/-! The naming policy of a source text and how its options give one. -/

namespace RegionNaming

open Options

def defaultNames : List String := [
  "PUBLIC_MEMBERS", "PUBLIC_PROPERTIES", "PUBLIC_FIELDS",
  "INTERNAL_MEMBERS", "INTERNAL_PROPERTIES", "INTERNAL_FIELDS",
  "PRIVATE_MEMBERS", "PRIVATE_PROPERTIES", "PRIVATE_FIELDS",
  "PROTECTED_MEMBERS", "PROTECTED_PROPERTIES", "PROTECTED_FIELDS",
  "CONST_MEMBERS", "CONST_PROPERTIES", "CONST_FIELDS",
  "STATIC_MEMBERS", "STATIC_PROPERTIES", "STATIC_FIELDS",
  "CONSTRUCTOR", "DESTRUCTOR", "INITIALIZATION",
  "PUBLIC_METHODS", "INTERNAL_METHODS", "PRIVATE_METHODS", "PROTECTED_METHODS",
  "OVERRIDE_METHODS", "ABSTRACT_METHODS", "STATIC_METHODS",
  "EVENT_CALLBACKS", "MAIN", "HELPERS", "UTILITIES"
]

structure Policy where
  names : NameSet
  patterns : List NamePattern
  customNames : Bool
  /-- Whether a list of patterns was given, be they taken or not. -/
  customPatterns : Bool
  caseSensitive : Bool
  allowEmpty : Bool

namespace Policy

def custom (p : Policy) : Bool := p.customNames || p.customPatterns

/-- The value of an option that is there and not blank. -/
def given (lookup : Lookup) (key : String) : Option String :=
  (lookup key).filter fun value => !Text.isBlank value

def flag (lookup : Lookup) (key : String) (default : Bool) : Bool :=
  ((lookup key).bind flag?).getD default

def readPatterns (caseSensitive : Bool) (value : String) :
    List (String × Except PatternError NamePattern) :=
  (items value).map fun source => (source, NamePattern.compile source caseSensitive)

def taken (read : List (String × Except PatternError NamePattern)) : List NamePattern :=
  read.filterMap (·.2.toOption)

/-- The policy that options give. Patterns that are not taken are left out. -/
def ofLookup (lookup : Lookup) : Policy :=
  let caseSensitive := flag lookup caseSensitiveKey false
  let mode := CaseMode.ofSensitive caseSensitive
  let names := given lookup allowedNamesKey
  let patterns := given lookup allowedPatternsKey
  { names := NameSet.ofList mode ((names.map items).getD defaultNames)
    patterns := ((patterns.map (readPatterns caseSensitive)).map taken).getD []
    customNames := names.isSome
    customPatterns := patterns.isSome
    caseSensitive
    allowEmpty := flag lookup allowEmptyKey true }

def word (b : Bool) : String := if b then "true" else "false"

def flagRecords (lookup : Lookup) (key : String) (default : Bool) : List Log.Record :=
  match lookup key with
  | none => []
  | some raw =>
    if (flag? raw).isSome then []
    else [⟨.warn, .policy,
      "Ignoring non-boolean value '" ++ raw ++ "' for " ++ key ++ "; using " ++ word default⟩]

def patternRecord (faults : Faults) (read : String × Except PatternError NamePattern) : Option Log.Record :=
  match read.2 with
  | .ok _ => none
  | .error e => some ⟨.warn, .policy,
      "Dropping invalid region name pattern '" ++ read.1 ++ "': " ++ e.message (faults.pattern read.1)⟩

def summary (p : Policy) : Log.Record :=
  ⟨.debug, .policy, "Resolved region policy: " ++ toString p.names.size ++ " names (custom: " ++
    word p.customNames ++ "), " ++ toString p.patterns.length ++ " patterns (custom: " ++
    word p.customPatterns ++ "), case_sensitive=" ++ word p.caseSensitive ++ ", allow_empty=" ++
    word p.allowEmpty⟩

def lookupRecords (faults : Faults) (lookup : Lookup) : List Log.Record :=
  let patterns := (given lookup allowedPatternsKey).map
    (readPatterns (flag lookup caseSensitiveKey false))
  flagRecords lookup caseSensitiveKey false ++ flagRecords lookup allowEmptyKey true ++
    (patterns.getD []).filterMap (patternRecord faults) ++ [(ofLookup lookup).summary]

def default : Policy := ofLookup fun _ => none

end Policy

end RegionNaming
