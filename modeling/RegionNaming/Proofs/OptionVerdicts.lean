import RegionNaming.Proofs.ListItems
import RegionNaming.Proofs.NameSets
import RegionNaming.Proofs.RuleChain

/-! What the raw texts of the options decide. The policy of some options, put through all rules, gives
each name the verdicts that can be read off the option texts themselves. -/

namespace RegionNaming

open Options

theorem NamePattern.source_of_compile {source : String} {caseSensitive : Bool} {p : NamePattern}
    (h : (compile source caseSensitive).toOption = some p) : p.source = source := by
  rw [compile, compileWithin] at h
  split at h
  case h_1 => cases h
  case h_2 =>
    split at h
    case isTrue => exact (congrArg NamePattern.source (Option.some.inj h)).symm
    case isFalse => cases h

namespace RuleChain

variable {clock : Clock} (p : Policy) (name : String)

/-- The rules that have a say: about a blank name that for missing names, about any other either
that for default names or, once something is configured, those for which something is left. -/
theorem applying_standard :
    applying standard.rules p name =
      if Text.isBlank name then if p.allowEmpty then [] else [.empty]
      else if p.custom then
        (if p.customNames && !p.names.isEmpty then [.allowedNames] else []) ++
          if p.customPatterns && !p.patterns.isEmpty then [.pattern] else []
      else [.noConfig] := by
  have hr : standard.rules = [.empty, .noConfig, .allowedNames, .pattern] := rfl
  rw [hr]
  cases hb : Text.isBlank name with
  | true => cases ha : p.allowEmpty <;> simp [Rule.applies, hb, ha]
  | false =>
    have he : Rule.empty.applies p name = false := by simp [Rule.applies, hb]
    have hd : Rule.noConfig.applies p name = !p.custom := by simp [Rule.applies, hb]
    have hn : Rule.allowedNames.applies p name = (p.customNames && !p.names.isEmpty) := by
      simp [Rule.applies, hb]
    have hp : Rule.pattern.applies p name = (p.customPatterns && !p.patterns.isEmpty) := by
      simp [Rule.applies, hb]
    simp only [applying, List.filter_cons, List.filter_nil, he, hd, hn, hp]
    cases hc : p.custom with
    | false =>
      obtain ⟨hcn, hcp⟩ := Bool.or_eq_false_iff.1 hc
      simp [hcn, hcp]
    | true =>
      cases p.customNames && !p.names.isEmpty <;>
        cases p.customPatterns && !p.patterns.isEmpty <;> rfl

theorem failures_standard_of_blank (h : Text.isBlank name = true) :
    standard.failures clock p name = if p.allowEmpty then [] else [.fail .empty emptyArgument] := by
  rw [failures_eq, applying_standard]
  cases ha : p.allowEmpty <;> simp [h, Rule.verdict, Rule.passes, Rule.finding]

theorem failures_standard_of_not_custom (h : Text.isBlank name = false) (hc : p.custom = false) :
    standard.failures clock p name = if p.names.contains name then [] else [.fail .noConfig name] := by
  rw [failures_eq, applying_standard]
  cases hm : p.names.contains name <;>
    simp [h, hc, hm, Rule.verdict, Rule.passes, Rule.finding]

/-- Once something is configured, a name passes if it is listed, matches a pattern or nothing is left
to compare with; otherwise each list that has entries is reported. -/
theorem failures_standard_of_custom (h : Text.isBlank name = false) (hc : p.custom = true) :
    standard.failures clock p name =
      let names := p.customNames && !p.names.isEmpty
      let patterns := p.customPatterns && !p.patterns.isEmpty
      if names && Rule.allowedNames.passes clock p name ||
          patterns && Rule.pattern.passes clock p name then []
      else (if names then [.fail .invalidName name] else []) ++
        if patterns then [.fail .invalidPattern name] else [] := by
  rw [failures_eq, applying_standard]
  simp only [h, hc]
  cases p.customNames && !p.names.isEmpty <;> cases p.customPatterns && !p.patterns.isEmpty <;>
  cases hn : Rule.allowedNames.passes clock p name <;> cases hp : Rule.pattern.passes clock p name <;>
    simp [Rule.verdict, hn, hp, Rule.finding]

end RuleChain

def supplied (lookup : Lookup) (key : String) : Bool :=
  (lookup key).any fun value => Text.trim value != ""

/-- The items of a list option; one that is missing or blank has none. -/
def listed (lookup : Lookup) (key : String) : List String :=
  match lookup key with
  | none => []
  | some value => if Text.trim value = "" then [] else items value

def failsAs (id name : String) : List Verdict := ((Finding.ofId? id).map (.fail · name)).toList

/-- Each kind of finding is told by its id. -/
theorem failsAs_id (finding : Finding) (name : String) :
    failsAs finding.details.id name = [.fail finding name] := by
  cases finding <;> rfl

/-- The verdicts on a name, read off the texts of the options. A blank name is judged by `allow_empty`
alone. Without lists a name has to be a default name; with one it has to be listed or to match a pattern
that compiles, and a list that has such entries is reported if neither is the case. -/
def verdictsOfOptions (clock : Clock) (lookup : Lookup) (name : String) : List Verdict :=
  let caseSensitive := (lookup caseSensitiveKey).bind flag? == some true
  let key := (CaseMode.ofSensitive caseSensitive).key
  let names := listed lookup allowedNamesKey
  let patterns := (listed lookup allowedPatternsKey).filterMap fun source =>
    (NamePattern.compile source caseSensitive).toOption
  if Text.trim name = "" then
    if (lookup allowEmptyKey).bind flag? = some false then failsAs "RR2003" "[empty]" else []
  else if !supplied lookup allowedNamesKey && !supplied lookup allowedPatternsKey then
    if ∃ n ∈ defaultNames, key n = key name then [] else failsAs "RR1999" name
  else if names.isEmpty ∧ patterns.isEmpty ∨ (∃ n ∈ names, key n = key name) ∨
      ∃ pattern ∈ patterns, clock.attempt name pattern = .matched then []
  else (if names.isEmpty then [] else failsAs "RR2001" name) ++
    if patterns.isEmpty then [] else failsAs "RR2002" name

namespace Policy

variable (lookup : Lookup)

/-- An option counts as given, or as missing, in all places alike. -/
theorem given_cases (key : String) :
    (given lookup key = none ∧ supplied lookup key = false ∧ listed lookup key = []) ∨
    ∃ value, given lookup key = some value ∧ supplied lookup key = true ∧
      listed lookup key = items value := by
  cases hl : lookup key with
  | none => exact .inl (by simp [given, supplied, listed, hl])
  | some value =>
    cases hb : Text.isBlank value with
    | true =>
      have ht := (Text.trim_eq_empty_iff value).2 hb
      exact .inl (by simp [given, supplied, listed, hl, hb, ht])
    | false =>
      have ht : Text.trim value ≠ "" := by simp [Text.trim_eq_empty_iff, hb]
      exact .inr ⟨value, by simp [given, supplied, listed, hl, hb, ht]⟩

end Policy

theorem listed_eq_items (lookup : Lookup) (key : String) :
    listed lookup key = ((lookup key).map items).getD [] := by
  rw [listed]
  cases lookup key with
  | none => rfl
  | some value =>
    dsimp only [Option.map_some, Option.getD_some]
    split
    case isTrue h => rw [items_of_blank ((Text.trim_eq_empty_iff value).1 h)]
    case isFalse => rfl

theorem listed_of_not_supplied {lookup : Lookup} {key : String} (h : supplied lookup key = false) :
    listed lookup key = [] := by
  rcases Policy.given_cases lookup key with ⟨_, _, hl⟩ | ⟨_, _, hs, _⟩
  · exact hl
  · rw [h] at hs
    cases hs

theorem listed_of_not_blank {lookup : Lookup} {key value : String} (h : lookup key = some value)
    (hb : Text.isBlank value = false) :
    supplied lookup key = true ∧ listed lookup key = items value := by
  have htrim : Text.trim value ≠ "" := by
    rw [ne_eq, Text.trim_eq_empty_iff, hb]
    exact Bool.false_ne_true
  constructor
  · simp [supplied, h, htrim]
  · simp [listed, h, htrim]

namespace Policy

variable (lookup : Lookup)

theorem customNames_ofLookup : (ofLookup lookup).customNames = supplied lookup allowedNamesKey := by
  rcases given_cases lookup allowedNamesKey with ⟨hg, hs, _⟩ | ⟨value, hg, hs, _⟩ <;>
    simp [ofLookup, hg, hs]

theorem customPatterns_ofLookup :
    (ofLookup lookup).customPatterns = supplied lookup allowedPatternsKey := by
  rcases given_cases lookup allowedPatternsKey with ⟨hg, hs, _⟩ | ⟨value, hg, hs, _⟩ <;>
    simp [ofLookup, hg, hs]

theorem flag_congr {a b : Lookup} {key : String} (h : a key = b key) (default : Bool) :
    flag a key default = flag b key default := by
  rw [flag, flag, h]

theorem flag_false (key : String) :
    flag lookup key false = ((lookup key).bind flag? == some true) := by
  rw [flag]
  rcases (lookup key).bind flag? with _ | _ | _ <;> rfl

theorem flag_true (key : String) :
    flag lookup key true = ((lookup key).bind flag? != some false) := by
  rw [flag]
  rcases (lookup key).bind flag? with _ | _ | _ <;> rfl

/-- The names of a policy: the listed ones, or the default ones if no list was given. -/
theorem names_ofLookup :
    (ofLookup lookup).names =
      NameSet.ofList (CaseMode.ofSensitive ((lookup caseSensitiveKey).bind flag? == some true))
        (if supplied lookup allowedNamesKey then listed lookup allowedNamesKey else defaultNames) := by
  rcases given_cases lookup allowedNamesKey with ⟨hg, hs, _⟩ | ⟨value, hg, hs, hl⟩
  · simp [ofLookup, flag_false, hg, hs]
  · simp [ofLookup, flag_false, hg, hs, hl]

/-- The patterns of a policy: those of the listed ones that compile. -/
theorem patterns_ofLookup :
    (ofLookup lookup).patterns = (listed lookup allowedPatternsKey).filterMap fun source =>
      (NamePattern.compile source ((lookup caseSensitiveKey).bind flag? == some true)).toOption := by
  rcases given_cases lookup allowedPatternsKey with ⟨hg, _, hl⟩ | ⟨value, hg, _, hl⟩
  · simp [ofLookup, hg, hl]
  · simp only [ofLookup, flag_false, hg, hl, Option.map_some, Option.getD_some, taken, readPatterns,
      List.filterMap_map]
    rfl

theorem caseSensitive_ofLookup :
    (ofLookup lookup).caseSensitive = ((lookup caseSensitiveKey).bind flag? == some true) :=
  flag_false lookup caseSensitiveKey

/-- The patterns of a policy have the sources of the listed ones that compile, in order. -/
theorem sources_ofLookup :
    (ofLookup lookup).patterns.map NamePattern.source =
      (listed lookup allowedPatternsKey).filter fun source =>
        (NamePattern.compile source (ofLookup lookup).caseSensitive).toOption.isSome := by
  rw [patterns_ofLookup, List.map_filterMap, ← List.filterMap_eq_filter, caseSensitive_ofLookup]
  congr 1
  funext source
  cases hc : (NamePattern.compile source
      ((lookup caseSensitiveKey).bind flag? == some true)).toOption with
  | none => simp [Option.guard, hc]
  | some p => simp [Option.guard, hc, NamePattern.source_of_compile hc]

/-- The rule for listed names has a say exactly if some name is listed. -/
theorem names_left :
    ((ofLookup lookup).customNames && !(ofLookup lookup).names.isEmpty) =
      !(listed lookup allowedNamesKey).isEmpty := by
  rw [customNames_ofLookup, names_ofLookup, NameSet.isEmpty_ofList]
  rcases given_cases lookup allowedNamesKey with ⟨_, hs, hl⟩ | ⟨value, _, hs, hl⟩
  · simp [hs, hl]
  · simp [hs]

/-- The rule for patterns has a say exactly if some listed pattern compiles. -/
theorem patterns_left :
    ((ofLookup lookup).customPatterns && !(ofLookup lookup).patterns.isEmpty) =
      !(ofLookup lookup).patterns.isEmpty := by
  rw [customPatterns_ofLookup]
  rcases given_cases lookup allowedPatternsKey with ⟨_, hs, hl⟩ | ⟨value, _, hs, _⟩
  · simp [hs, patterns_ofLookup, hl]
  · simp [hs]

theorem custom_ofLookup :
    (ofLookup lookup).custom =
      (supplied lookup allowedNamesKey || supplied lookup allowedPatternsKey) := by
  rw [custom, customNames_ofLookup, customPatterns_ofLookup]

theorem names_pass (clock : Clock) (name : String) :
    (!(listed lookup allowedNamesKey).isEmpty &&
      Rule.allowedNames.passes clock (ofLookup lookup) name) = true ↔
    ∃ n ∈ listed lookup allowedNamesKey,
      (CaseMode.ofSensitive ((lookup caseSensitiveKey).bind flag? == some true)).key n =
        (CaseMode.ofSensitive ((lookup caseSensitiveKey).bind flag? == some true)).key name := by
  rw [Rule.passes, names_ofLookup, Bool.and_eq_true, NameSet.contains_ofList]
  rcases given_cases lookup allowedNamesKey with ⟨_, _, hl⟩ | ⟨value, _, hs, _⟩
  · simp [hl]
  · rw [if_pos hs]
    refine and_iff_right_of_imp ?_
    rintro ⟨n, hn, _⟩
    simpa using List.ne_nil_of_mem hn

theorem patterns_pass {clock : Clock} (p : Policy) (name : String) :
    (!p.patterns.isEmpty && Rule.pattern.passes clock p name) = true ↔
      ∃ pattern ∈ p.patterns, clock.attempt name pattern = .matched := by
  have h : Rule.pattern.passes clock p name = true ↔
      ∃ pattern ∈ p.patterns, clock.attempt name pattern = .matched := by simp [Rule.passes]
  rw [Bool.and_eq_true, h]
  refine and_iff_right_of_imp ?_
  rintro ⟨pattern, hm, _⟩
  simpa using List.ne_nil_of_mem hm

/-- Where no attempt lasts too long, a name passes that has a pattern in it. -/
theorem patterns_pass_of_inTime {clock : Clock} {p : Policy} {name : String} (h : p.InTime clock name) :
    (!p.patterns.isEmpty && Rule.pattern.passes clock p name) = true ↔
      ∃ pattern ∈ p.patterns, pattern.expr.occursIn name.toList = true := by
  rw [patterns_pass]
  exact exists_congr fun pattern => and_congr_right fun hm => Clock.attempt_eq_matched_iff (h pattern hm)

end Policy

/-- Once a list is given, a name that is not blank passes if nothing is left to compare with, if it has
the key of a listed name or if it matches a pattern. -/
theorem failures_eq_nil_iff {clock : Clock} {lookup : Lookup} (hc : (Policy.ofLookup lookup).custom = true)
    {name : String} (hb : Text.isBlank name = false) :
    RuleChain.standard.failures clock (Policy.ofLookup lookup) name = [] ↔
      (listed lookup allowedNamesKey = [] ∧ (Policy.ofLookup lookup).patterns = []) ∨
      (∃ n ∈ listed lookup allowedNamesKey,
        (CaseMode.ofSensitive ((lookup caseSensitiveKey).bind flag? == some true)).key n =
          (CaseMode.ofSensitive ((lookup caseSensitiveKey).bind flag? == some true)).key name) ∨
      ∃ pattern ∈ (Policy.ofLookup lookup).patterns, clock.attempt name pattern = .matched := by
  rw [RuleChain.failures_standard_of_custom _ _ hb hc]
  simp only [Policy.names_left, Policy.patterns_left, ← Policy.names_pass lookup clock,
    ← Policy.patterns_pass]
  cases hn : listed lookup allowedNamesKey <;> cases hp : (Policy.ofLookup lookup).patterns <;>
    cases Rule.allowedNames.passes clock (Policy.ofLookup lookup) name <;> simp

/-- The verdicts of all rules under the policy of some options are those that the texts of the
options decide, for every look-up of options and every name, however long attempts last. -/
theorem failures_ofLookup (clock : Clock) (lookup : Lookup) (name : String) :
    RuleChain.standard.failures clock (Policy.ofLookup lookup) name =
      verdictsOfOptions clock lookup name := by
  rw [verdictsOfOptions]
  simp only [Text.trim_eq_empty_iff, ← Policy.patterns_ofLookup]
  cases hb : Text.isBlank name with
  | true =>
    have ha : (Policy.ofLookup lookup).allowEmpty = ((lookup allowEmptyKey).bind flag? != some false) :=
      Policy.flag_true lookup allowEmptyKey
    rw [RuleChain.failures_standard_of_blank _ _ hb, ha, if_pos rfl]
    by_cases hf : (lookup allowEmptyKey).bind flag? = some false
    · rw [if_neg (by simp [hf]), if_pos hf]
      exact (failsAs_id .empty emptyArgument).symm
    · rw [if_pos (by simpa using hf), if_neg hf]
  | false =>
    have hcs := Policy.custom_ofLookup lookup
    rw [if_neg Bool.false_ne_true, ← Bool.not_or, ← hcs]
    cases hc : (Policy.ofLookup lookup).custom with
    | false =>
      rw [hc, eq_comm, Bool.or_eq_false_iff] at hcs
      rw [RuleChain.failures_standard_of_not_custom _ _ hb hc, Policy.names_ofLookup]
      have hd : failsAs "RR1999" name = _ := failsAs_id .noConfig name
      simp only [hcs.1, NameSet.contains_ofList, hd]
      rfl
    | true =>
      rw [RuleChain.failures_standard_of_custom _ _ hb hc, Policy.names_left, Policy.patterns_left]
      have hn : failsAs "RR2001" name = _ := failsAs_id .invalidName name
      have hp : failsAs "RR2002" name = _ := failsAs_id .invalidPattern name
      simp only [← Policy.names_pass lookup clock, ← Policy.patterns_pass, hn, hp]
      cases (listed lookup allowedNamesKey).isEmpty <;>
        cases (Policy.ofLookup lookup).patterns.isEmpty <;> simp

example :
    RuleChain.standard.failures .still
      (Policy.ofLookup fun key => if key = allowedNamesKey then some " ,; " else none) "x" = [] := by
  decide

end RegionNaming
