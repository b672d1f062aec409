import RegionNaming.Main
import RegionNaming.Options.History
import RegionNaming.Proofs.RuleChain
import RegionNaming.Proofs.OptionVerdicts
import RegionNaming.Proofs.Directives
import RegionNaming.Proofs.Diagnosis
import RegionNaming.Proofs.Assignments
import RegionNaming.Proofs.Overrides
import RegionNaming.Proofs.Flattening
import RegionNaming.Proofs.FlattenFailures
import RegionNaming.Proofs.StoreHistory
import RegionNaming.Proofs.FileRuns
import RegionNaming.Proofs.TextReport
import RegionNaming.Proofs.JsonReader
import RegionNaming.Proofs.OptionSpelling
import RegionNaming.Proofs.UnitDiagnostics
import RegionNaming.Proofs.JsonReport
import RegionNaming.Proofs.CodeSets
import RegionNaming.Proofs.CaseTables
import RegionNaming.Proofs.LiteralPattern
import RegionNaming.Proofs.SpelledNames
import RegionNaming.Proofs.ListItems
import RegionNaming.Proofs.ExactNames
import RegionNaming.Proofs.ListExtension
import RegionNaming.Proofs.ReportedNames
import RegionNaming.Proofs.PatternArrays
import RegionNaming.Proofs.LineGrammar
import RegionNaming.Proofs.LineBreaks
import RegionNaming.Proofs.RuleOrder
import RegionNaming.Proofs.RuleRecords
import RegionNaming.Proofs.DroppedPatterns
import RegionNaming.Proofs.NameArrays
import RegionNaming.Proofs.Exports
import RegionNaming.Proofs.ListGrammar
import RegionNaming.Proofs.FlagFallbacks
