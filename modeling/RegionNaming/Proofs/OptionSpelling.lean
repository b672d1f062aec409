import RegionNaming.Diagnosis
import RegionNaming.Proofs.OptionVerdicts

/-! Two ways to write the same options. What is reported depends on the two flags as they are read, on
which lists are given, on the keys of the listed names and on the listed patterns; how often and in
which order a list names its entries, and all other options, make no difference. -/

namespace RegionNaming

open Options

def modeRead (lookup : Lookup) : CaseMode :=
  CaseMode.ofSensitive (((lookup caseSensitiveKey).bind flag?).getD false)

structure ReadAlike (a b : Lookup) : Prop where
  caseSensitive : ((a caseSensitiveKey).bind flag?).getD false =
    ((b caseSensitiveKey).bind flag?).getD false
  allowEmpty : ((a allowEmptyKey).bind flag?).getD true = ((b allowEmptyKey).bind flag?).getD true
  names_supplied : supplied a allowedNamesKey = supplied b allowedNamesKey
  patterns_supplied : supplied a allowedPatternsKey = supplied b allowedPatternsKey
  names : ∀ key, key ∈ (listed a allowedNamesKey).map (modeRead a).key ↔
    key ∈ (listed b allowedNamesKey).map (modeRead b).key
  patterns : ∀ source, source ∈ listed a allowedPatternsKey ↔ source ∈ listed b allowedPatternsKey

private theorem isEmpty_congr {α : Type} {xs ys : List α} (h : ∀ x, x ∈ xs ↔ x ∈ ys) :
    xs.isEmpty = ys.isEmpty := by
  rw [Bool.eq_iff_iff, List.isEmpty_iff, List.isEmpty_iff, List.eq_nil_iff_forall_not_mem,
    List.eq_nil_iff_forall_not_mem]
  exact forall_congr' fun x => not_congr (h x)

namespace ReadAlike

variable {a b : Lookup} (h : ReadAlike a b) {clock clock' : Clock}
include h

theorem sensitive_eq :
    ((a caseSensitiveKey).bind flag? == some true) = ((b caseSensitiveKey).bind flag? == some true) := by
  rw [← Policy.flag_false, ← Policy.flag_false]
  exact h.caseSensitive

theorem listed_isEmpty_eq :
    (listed a allowedNamesKey).isEmpty = (listed b allowedNamesKey).isEmpty := by
  simpa using isEmpty_congr h.names

/-- A name has the key of a listed one under both or under none. -/
theorem names_pass_eq (name : String) :
    (!(listed a allowedNamesKey).isEmpty && Rule.allowedNames.passes clock (Policy.ofLookup a) name) =
      (!(listed b allowedNamesKey).isEmpty &&
        Rule.allowedNames.passes clock' (Policy.ofLookup b) name) := by
  have hread (lookup : Lookup) :
      CaseMode.ofSensitive ((lookup caseSensitiveKey).bind flag? == some true) = modeRead lookup := by
    rw [← Policy.flag_false]
    rfl
  have hmode : modeRead a = modeRead b := congrArg CaseMode.ofSensitive h.caseSensitive
  have hn := h.names ((modeRead b).key name)
  rw [Bool.eq_iff_iff, Policy.names_pass, Policy.names_pass, hread, hread, hmode]
  rwa [hmode, List.mem_map, List.mem_map] at hn

theorem mem_patterns_iff (pattern : NamePattern) :
    pattern ∈ (Policy.ofLookup a).patterns ↔ pattern ∈ (Policy.ofLookup b).patterns := by
  rw [Policy.patterns_ofLookup, Policy.patterns_ofLookup, h.sensitive_eq]
  simp only [List.mem_filterMap, h.patterns]

/-- A name has a pattern in it under both or under none, if no attempt lasts too long. -/
theorem patterns_pass_eq {name : String} (ha : (Policy.ofLookup a).InTime clock name)
    (hb : (Policy.ofLookup b).InTime clock' name) :
    (!(Policy.ofLookup a).patterns.isEmpty && Rule.pattern.passes clock (Policy.ofLookup a) name) =
      (!(Policy.ofLookup b).patterns.isEmpty &&
        Rule.pattern.passes clock' (Policy.ofLookup b) name) := by
  rw [Bool.eq_iff_iff, Policy.patterns_pass_of_inTime ha, Policy.patterns_pass_of_inTime hb]
  simp only [h.mem_patterns_iff]

theorem custom_eq : (Policy.ofLookup a).custom = (Policy.ofLookup b).custom := by
  rw [Policy.custom_ofLookup, Policy.custom_ofLookup, h.names_supplied, h.patterns_supplied]

/-- Without lists both have the default names, in the same mode. -/
theorem names_eq_of_not_custom (hc : (Policy.ofLookup b).custom = false) :
    (Policy.ofLookup a).names = (Policy.ofLookup b).names := by
  have hb : supplied b allowedNamesKey = false := by
    rw [Policy.custom_ofLookup, Bool.or_eq_false_iff] at hc
    exact hc.1
  rw [Policy.names_ofLookup, Policy.names_ofLookup, h.names_supplied, h.sensitive_eq, hb]
  rfl

theorem failures_eq {name : String} (hta : (Policy.ofLookup a).InTime clock name)
    (htb : (Policy.ofLookup b).InTime clock' name) :
    RuleChain.standard.failures clock (Policy.ofLookup a) name =
      RuleChain.standard.failures clock' (Policy.ofLookup b) name := by
  cases hb : Text.isBlank name with
  | true =>
    have he : (Policy.ofLookup a).allowEmpty = (Policy.ofLookup b).allowEmpty := h.allowEmpty
    rw [RuleChain.failures_standard_of_blank _ _ hb, RuleChain.failures_standard_of_blank _ _ hb, he]
  | false =>
    cases hc : (Policy.ofLookup b).custom with
    | false =>
      rw [RuleChain.failures_standard_of_not_custom _ _ hb (h.custom_eq.trans hc),
        RuleChain.failures_standard_of_not_custom _ _ hb hc, h.names_eq_of_not_custom hc]
    | true =>
      rw [RuleChain.failures_standard_of_custom _ _ hb (h.custom_eq.trans hc),
        RuleChain.failures_standard_of_custom _ _ hb hc]
      simp only [Policy.names_left, Policy.patterns_left]
      rw [h.names_pass_eq, h.patterns_pass_eq hta htb, h.listed_isEmpty_eq, isEmpty_congr h.mem_patterns_iff]

end ReadAlike

/-- Options that read alike give every list of regions the same diagnostics, on whatever clocks, as long as
no attempt lasts too long. -/
theorem diagnose_of_readAlike {L : Type} {a b : Lookup} (h : ReadAlike a b) {clock clock' : Clock}
    {regions : List (String × L)}
    (ha : ∀ region ∈ regions, (Policy.ofLookup a).InTime clock region.1)
    (hb : ∀ region ∈ regions, (Policy.ofLookup b).InTime clock' region.1) :
    diagnose clock a regions = diagnose clock' b regions := by
  apply List.flatMap_congr
  intro region hm
  exact congrArg (·.filterMap (·.toDiagnostic? region.2)) (h.failures_eq (ha region hm) (hb region hm))

/-- Another order, other delimiters and letter case, repeated entries, a flag that cannot be read and an
option that is not known read like a plain list. -/
theorem diagnose_of_readAlike_untidy :
    let plain : Lookup := fun key => if key = allowedNamesKey then some "Main,Helpers"
      else if key = allowedPatternsKey then some "^P" else none
    let untidy : Lookup := fun key => if key = allowedNamesKey then some " ;HELPERS ; main;helpers,"
      else if key = allowedPatternsKey then some "^P , ^P;" else if key = caseSensitiveKey then some "no"
      else if key = allowEmptyKey then some " TRUE " else some "?"
    let slow : Clock := fun _ name => 10000000 * name.length
    let regions := [("x", 1), ("public", 2)]
    ReadAlike plain untidy ∧ (∀ region ∈ regions, (Policy.ofLookup untidy).InTime slow region.1) ∧
      diagnose .still plain regions = diagnose slow untidy regions := by
  intro plain untidy slow regions
  have hn : listed plain allowedNamesKey = ["Main", "Helpers"] ∧
      listed untidy allowedNamesKey = ["HELPERS", "main", "helpers"] := by decide
  have hp : listed plain allowedPatternsKey = ["^P"] ∧
      listed untidy allowedPatternsKey = ["^P", "^P"] := by decide
  have hm : modeRead plain = .ignored ∧ modeRead untidy = .ignored := by decide
  have hk : CaseMode.ignored.key "Main" = CaseMode.ignored.key "main" ∧
      CaseMode.ignored.key "Helpers" = CaseMode.ignored.key "HELPERS" ∧
      CaseMode.ignored.key "helpers" = CaseMode.ignored.key "HELPERS" := by decide
  have h : ReadAlike plain untidy := by
    refine ⟨by decide, by decide, by decide, by decide, ?_, ?_⟩
    · intro key
      rw [hn.1, hn.2, hm.1, hm.2]
      simp only [List.map_cons, List.map_nil, hk.1, hk.2.1, hk.2.2]
      simp [or_comm]
    · intro source
      rw [hp.1, hp.2]
      simp
  have hslow : ∀ region ∈ regions, (Policy.ofLookup untidy).InTime slow region.1 := by decide
  exact ⟨h, hslow, diagnose_of_readAlike h (fun _ _ _ _ => Nat.zero_le _) hslow⟩

end RegionNaming
