import Mathlib.Logic.Function.Basic
import RegionNaming.Proofs.UnitDiagnostics

/-! Patterns that are not taken. Each item of a list of patterns is taken or dropped by itself: a dropped
one leaves a warning in the log and no other trace, and a list of which nothing is left still counts as
given, so that no name is held against the default names. -/

namespace RegionNaming

open Options

def compiles (caseSensitive : Bool) (source : String) : Bool :=
  (NamePattern.compile source caseSensitive).toOption.isSome

def warnsOfDrop (entry : Log.Record) : Bool :=
  entry.level = .warn &&
    (Text.after? "Dropping invalid region name pattern '".toList entry.text.toList).isSome

def WarnsOf (faults : Faults) (caseSensitive : Bool) (source : String) (entry : Log.Record) : Prop :=
  ∃ e, NamePattern.compile source caseSensitive = .error e ∧
    entry = ⟨.warn, .policy,
      "Dropping invalid region name pattern '" ++ source ++ "': " ++ e.message (faults.pattern source)⟩

abbrev withPatterns (options : Lookup) (value : String) : Lookup :=
  Function.update options allowedPatternsKey (some value)

variable (faults : Faults) (options : Lookup)

theorem given_withPatterns {value : String} (hb : Text.isBlank value = false) :
    Policy.given (withPatterns options value) allowedPatternsKey = some value := by
  simp [Policy.given, hb]

/-- The list of patterns decides on the patterns and on nothing else. -/
theorem ofLookup_withPatterns {value : String} (hb : Text.isBlank value = false) :
    Policy.ofLookup (withPatterns options value) =
      { Policy.ofLookup options with
        patterns := (items value).filterMap fun source =>
          (NamePattern.compile source (Policy.ofLookup options).caseSensitive).toOption
        customPatterns := true } := by
  have hother (key : String) (hk : key ≠ allowedPatternsKey) :
      withPatterns options value key = options key := Function.update_of_ne hk _ _
  have hnames : Policy.given (withPatterns options value) allowedNamesKey =
      Policy.given options allowedNamesKey := by
    rw [Policy.given, Policy.given, hother allowedNamesKey (by decide)]
  have hcase : Policy.flag (withPatterns options value) caseSensitiveKey false =
      Policy.flag options caseSensitiveKey false := Policy.flag_congr (hother _ (by decide)) false
  have hempty : Policy.flag (withPatterns options value) allowEmptyKey true =
      Policy.flag options allowEmptyKey true := Policy.flag_congr (hother _ (by decide)) true
  simp only [Policy.ofLookup, given_withPatterns options hb, hnames, hcase, hempty, Option.map_some,
    Option.getD_some, Policy.taken, Policy.readPatterns, List.filterMap_map]
  rfl

theorem customPatterns_withPatterns {value : String} (hb : Text.isBlank value = false) :
    (Policy.ofLookup (withPatterns options value)).customPatterns = true := by
  rw [ofLookup_withPatterns options hb]

/-- The sources of the patterns are the items that compile, in order. -/
theorem sources_withPatterns {value : String} (hb : Text.isBlank value = false) :
    (Policy.ofLookup (withPatterns options value)).patterns.map NamePattern.source =
      (items value).filter (compiles (Policy.ofLookup options).caseSensitive) := by
  have hlisted : listed (withPatterns options value) allowedPatternsKey = items value :=
    (listed_of_not_blank (Function.update_self ..) hb).2
  rw [Policy.sources_ofLookup, hlisted, ofLookup_withPatterns options hb]
  rfl

/-- An item that does not compile may as well be left out. -/
theorem ofLookup_withPatterns_of_dropped {item value : String} (hm : item ∈ items value)
    (hd : compiles (Policy.ofLookup options).caseSensitive item = false) (a b : String) :
    Policy.ofLookup (withPatterns options (a ++ ";" ++ item ++ ";" ++ b)) =
      Policy.ofLookup (withPatterns options (a ++ ";" ++ b)) := by
  have hnone : (NamePattern.compile item (Policy.ofLookup options).caseSensitive).toOption = none :=
    Option.isNone_iff_eq_none.1 (Option.isSome_eq_false_iff.1 hd)
  rw [ofLookup_withPatterns options (isBlank_append_semicolon _ b),
    ofLookup_withPatterns options (isBlank_append_semicolon a b), items_append, items_append,
    items_of_mem_items hm, items_append]
  simp [hnone]

namespace Policy

theorem not_warnsOfDrop_of_mem_flagRecords {key : String} {default : Bool} :
    ∀ entry ∈ flagRecords options key default, warnsOfDrop entry = false := by
  intro entry hm
  rw [flagRecords] at hm
  split at hm
  case h_1 => cases hm
  case h_2 =>
    split at hm
    case isTrue => cases hm
    case isFalse =>
      obtain rfl := List.mem_singleton.1 hm
      simp [warnsOfDrop, Text.after?]

theorem warnsOfDrop_of_patternRecord {read : String × Except PatternError NamePattern}
    {entry : Log.Record} (h : patternRecord faults read = some entry) : warnsOfDrop entry = true := by
  rw [patternRecord] at h
  split at h
  case h_1 => cases h
  case h_2 e _ =>
    obtain rfl := Option.some.inj h
    have hafter : Text.after? "Dropping invalid region name pattern '".toList
        ("Dropping invalid region name pattern '" ++ read.1 ++ "': " ++
          e.message (faults.pattern read.1)).toList =
          some (read.1 ++ "': " ++ e.message (faults.pattern read.1)).toList := by
      rw [Text.after?_eq_some_iff]
      simp only [String.toList_append, List.append_assoc]
    rw [warnsOfDrop, hafter]
    rfl

/-- One warning is left by each item that does not compile, in their order. -/
theorem forall₂_warnsOf (caseSensitive : Bool) (sources : List String) :
    List.Forall₂ (WarnsOf faults caseSensitive)
      (sources.filter fun source => !compiles caseSensitive source)
      ((sources.map fun source => (source, NamePattern.compile source caseSensitive)).filterMap
        (patternRecord faults)) := by
  induction sources with
  | nil => exact .nil
  | cons source rest ih =>
    rw [List.map_cons]
    cases hc : NamePattern.compile source caseSensitive with
    | ok pattern =>
      have htaken : compiles caseSensitive source = true := by
        rw [compiles, hc]
        rfl
      rw [List.filter_cons, htaken, List.filterMap_cons_none rfl]
      exact ih
    | error e =>
      have hdropped : compiles caseSensitive source = false := by
        rw [compiles, hc]
        rfl
      have hrecord : patternRecord faults (source, .error e) = some ⟨.warn, .policy,
          "Dropping invalid region name pattern '" ++ source ++ "': " ++
            e.message (faults.pattern source)⟩ := rfl
      rw [List.filter_cons, hdropped, List.filterMap_cons_some hrecord]
      exact .cons ⟨e, hc, rfl⟩ ih

/-- Of what is logged while a policy is made, the warnings about dropped patterns are those of the items
that do not compile. -/
theorem forall₂_lookupRecords {value : String} (hb : Text.isBlank value = false) :
    List.Forall₂ (WarnsOf faults (ofLookup options).caseSensitive)
      ((items value).filter fun source => !compiles (ofLookup options).caseSensitive source)
      ((lookupRecords faults (withPatterns options value)).filter warnsOfDrop) := by
  have hcase : flag (withPatterns options value) caseSensitiveKey false =
      (ofLookup options).caseSensitive :=
    congrArg caseSensitive (ofLookup_withPatterns options hb)
  have hflag (key : String) (default : Bool) :
      (flagRecords (withPatterns options value) key default).filter warnsOfDrop = [] := by
    rw [List.filter_eq_nil_iff]
    intro entry hm
    rw [not_warnsOfDrop_of_mem_flagRecords _ entry hm]
    exact Bool.false_ne_true
  have hall : ∀ entry ∈
      (readPatterns (ofLookup options).caseSensitive value).filterMap (patternRecord faults),
      warnsOfDrop entry = true := by
    intro entry hm
    obtain ⟨read, _, h⟩ := List.mem_filterMap.1 hm
    exact warnsOfDrop_of_patternRecord faults h
  have hsummary (p : Policy) : [p.summary].filter warnsOfDrop = [] := rfl
  rw [lookupRecords, hcase, given_withPatterns options hb, Option.map_some, Option.getD_some,
    List.filter_append, List.filter_append, List.filter_append, hflag, hflag,
    List.filter_eq_self.2 hall, hsummary, List.append_nil]
  exact forall₂_warnsOf faults _ (items value)

end Policy

/-- Without a pattern that was taken nothing is held against patterns, and with a list that was given
nothing is held against the default names. -/
theorem id_ne_of_no_patterns {L : Type} {clock : Clock} {p : Policy} (hp : p.patterns = [])
    (hc : p.custom = true)
    {c : RuleChain} {name : String} {location : L} {d : Diagnostic L}
    (hd : d ∈ c.diagnostics clock p name location) : d.id ≠ "RR2002" ∧ d.id ≠ "RR1999" := by
  obtain ⟨r, hr, rfl⟩ := RuleChain.exists_rule_of_mem_diagnostics p name hd
  have happlies : r.applies p name = true := (List.mem_filter.1 hr).2
  constructor
  · refine Diagnostic.id_ne _ .invalidPattern fun he => ?_
    cases r with
    | pattern => simp [Rule.applies, hp] at happlies
    | _ => cases he
  · refine Diagnostic.id_ne _ .noConfig fun he => ?_
    cases r with
    | noConfig => simp [Rule.applies, hc] at happlies
    | _ => cases he

/-- Malformed patterns are dropped one by one. In any options, a list of patterns that is not blank gives
the patterns of the items that compile, in order, and the log has one warning for each of the others, in
order. The list counts as given, and if no item compiles no name is held against patterns or default
names. Leaving out an item that does not compile, wherever it stands, changes nothing of the policy, and
so no failure of any region. -/
theorem malformed_patterns_dropped (clock : Clock) (faults : Faults) (options : Lookup) :
    let caseSensitive := (options caseSensitiveKey).bind flag? == some true
    (∀ value, Text.trim value ≠ "" →
      let lookup := withPatterns options value
      let p := Policy.ofLookup lookup
      p.patterns.map NamePattern.source = (items value).filter (compiles caseSensitive) ∧
      List.Forall₂ (WarnsOf faults caseSensitive)
        ((items value).filter fun source => !compiles caseSensitive source)
        ((Policy.lookupRecords faults lookup).filter warnsOfDrop) ∧
      p.customPatterns = true ∧
      ((∀ source ∈ items value, compiles caseSensitive source = false) →
        p.patterns = [] ∧ ∀ (L : Type) (c : RuleChain) (name : String) (location : L),
          ∀ d ∈ c.diagnostics clock p name location, d.id ≠ "RR2002" ∧ d.id ≠ "RR1999")) ∧
    ∀ a b value, ∀ item ∈ items value, compiles caseSensitive item = false →
      let p := Policy.ofLookup (withPatterns options (a ++ ";" ++ item ++ ";" ++ b))
      let q := Policy.ofLookup (withPatterns options (a ++ ";" ++ b))
      p.customPatterns = true ∧ q.customPatterns = true ∧ p.patterns = q.patterns ∧
      ∀ (c : RuleChain) (name : String), c.failures clock p name = c.failures clock q name := by
  rw [← Policy.caseSensitive_ofLookup]
  intro caseSensitive
  constructor
  · intro value hne lookup p
    have hb : Text.isBlank value = false := by
      rw [Bool.eq_false_iff, ne_eq, ← Text.trim_eq_empty_iff]
      exact hne
    have hsources := sources_withPatterns options hb
    have hcustom : p.customPatterns = true := customPatterns_withPatterns options hb
    refine ⟨hsources, Policy.forall₂_lookupRecords faults options hb, hcustom, fun hnone => ?_⟩
    have hpatterns : p.patterns = [] := by
      rw [← List.map_eq_nil_iff, hsources, List.filter_eq_nil_iff]
      intro source hm
      rw [hnone source hm]
      exact Bool.false_ne_true
    refine ⟨hpatterns, fun L c name location d hd => id_ne_of_no_patterns hpatterns ?_ hd⟩
    rw [Policy.custom, hcustom, Bool.or_true]
  · intro a b value item hm hd p q
    have hsame : p = q := ofLookup_withPatterns_of_dropped options hm hd a b
    have hcustom : q.customPatterns = true :=
      customPatterns_withPatterns options (isBlank_append_semicolon a b)
    rw [hsame]
    exact ⟨hcustom, hcustom, rfl, fun _ _ => rfl⟩

/-- Of four items the second and the last do not compile; without the second nothing changes. -/
theorem malformed_patterns_dropped_unclosed :
    let options : Lookup := fun key => if key = caseSensitiveKey then some "TRUE" else none
    let value := "^P;(, ^P;[a-"
    Text.trim value ≠ "" ∧
      (Policy.ofLookup (withPatterns options value)).patterns.map NamePattern.source = ["^P", "^P"] ∧
      "(" ∈ items value ∧ compiles true "(" = false ∧
      ∀ name, RuleChain.standard.failures .still
          (Policy.ofLookup (withPatterns options ("^P" ++ ";" ++ "(" ++ ";" ++ "^P"))) name =
        RuleChain.standard.failures .still
          (Policy.ofLookup (withPatterns options ("^P" ++ ";" ++ "^P"))) name := by
  intro options value
  have hne : Text.trim value ≠ "" := by decide
  have hm : "(" ∈ items value := by decide
  have hd : compiles true "(" = false := by decide
  obtain ⟨hlist, hleave⟩ := malformed_patterns_dropped .still ⟨id, id⟩ options
  have hsources := (hlist value hne).1
  have hsame := (hleave "^P" "^P" value "(" hm hd).2.2.2
  refine ⟨hne, hsources.trans ?_, hm, hd, hsame RuleChain.standard⟩
  decide

end RegionNaming
