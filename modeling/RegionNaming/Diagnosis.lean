import RegionNaming.Rules.Chain
import RegionNaming.Source.Region

/-! The diagnostics of a source text. -/

namespace RegionNaming

open Options

def diagnose {L : Type} (clock : Clock) (options : Lookup) (regions : List (String × L)) :
    List (Diagnostic L) :=
  let policy := Policy.ofLookup options
  regions.flatMap fun (name, location) => RuleChain.standard.diagnostics clock policy name location

def diagnoseRecords (clock : Clock) (faults : Faults) (options : Lookup) (names : List String) :
    List Log.Record :=
  let policy := Policy.ofLookup options
  Policy.lookupRecords faults options ++
    names.flatMap fun name => RuleChain.standard.records clock policy name

def locatedRegions (path text : String) : List (String × Source.Location) :=
  (Source.regions text).map fun r => (r.name, r.location path)

def diagnoseText (clock : Clock) (options : Lookup) (path text : String) :
    List (Diagnostic Source.Location) :=
  diagnose clock options (locatedRegions path text)

end RegionNaming
