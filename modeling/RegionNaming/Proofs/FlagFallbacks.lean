import RegionNaming.Proofs.OptionVerdicts

/-! Flags that fall back on their defaults. The defaults are the lenient values: letter case does not count
and a region may have no name. So a policy without patterns lets every name pass that passed before a flag
was removed or spoiled. -/

namespace RegionNaming

open Options

/-- What becomes of a flag option: it stays, is removed, or gets a text that is no flag. -/
inductive FallsBack (value : Option String) : Option String → Prop where
  | kept : FallsBack value value
  | removed : FallsBack value none
  | spoiled {text : String} (h : flag? text = none) : FallsBack value (some text)

structure FlagsFallBack (a b : Lookup) : Prop where
  caseSensitive : FallsBack (a caseSensitiveKey) (b caseSensitiveKey)
  allowEmpty : FallsBack (a allowEmptyKey) (b allowEmptyKey)
  others : ∀ key, key ≠ caseSensitiveKey → key ≠ allowEmptyKey → b key = a key

structure IgnoresCase (a b : Lookup) : Prop where
  ignored : (Policy.ofLookup b).caseSensitive = false
  others : ∀ key, key ≠ caseSensitiveKey → b key = a key

structure Relaxes (a b : Lookup) : Prop where
  caseSensitive : (Policy.ofLookup b).caseSensitive = true → (Policy.ofLookup a).caseSensitive = true
  allowEmpty : (Policy.ofLookup a).allowEmpty = true → (Policy.ofLookup b).allowEmpty = true
  names : b allowedNamesKey = a allowedNamesKey
  patterns : b allowedPatternsKey = a allowedPatternsKey

theorem FallsBack.bind_flag? {value new : Option String} (h : FallsBack value new) :
    new.bind flag? = value.bind flag? ∨ new.bind flag? = none := by
  cases h with
  | kept => exact .inl rfl
  | removed => exact .inr rfl
  | spoiled htext => exact .inr htext

/-- A flag that falls back has its value from before or its default. -/
theorem flag_of_fallsBack {a b : Lookup} {key : String} (h : FallsBack (a key) (b key)) (default : Bool) :
    Policy.flag b key default = Policy.flag a key default ∨ Policy.flag b key default = default := by
  rw [Policy.flag, Policy.flag]
  rcases h.bind_flag? with heq | hnone
  · exact .inl (by rw [heq])
  · exact .inr (by rw [hnone]; rfl)

theorem FlagsFallBack.relaxes {a b : Lookup} (h : FlagsFallBack a b) : Relaxes a b where
  caseSensitive hb := by
    rcases flag_of_fallsBack h.caseSensitive false with heq | hdefault
    · exact heq.symm.trans hb
    · exact absurd (hdefault.symm.trans hb) Bool.false_ne_true
  allowEmpty ha := by
    rcases flag_of_fallsBack h.allowEmpty true with heq | hdefault
    · exact heq.trans ha
    · exact hdefault
  names := h.others allowedNamesKey (by decide) (by decide)
  patterns := h.others allowedPatternsKey (by decide) (by decide)

theorem IgnoresCase.relaxes {a b : Lookup} (h : IgnoresCase a b) : Relaxes a b where
  caseSensitive hb := absurd (h.ignored.symm.trans hb) Bool.false_ne_true
  allowEmpty ha := by
    have heq : (Policy.ofLookup b).allowEmpty = (Policy.ofLookup a).allowEmpty :=
      Policy.flag_congr (h.others allowEmptyKey (by decide)) true
    exact heq.trans ha
  names := h.others allowedNamesKey (by decide)
  patterns := h.others allowedPatternsKey (by decide)

def Policy.mode (p : Policy) : CaseMode := CaseMode.ofSensitive p.caseSensitive

namespace Relaxes

variable {a b : Lookup} (h : Relaxes a b)
include h

/-- The mode is the same, or it was the exact one. -/
theorem mode_cases :
    (Policy.ofLookup b).mode = (Policy.ofLookup a).mode ∨ (Policy.ofLookup a).mode = .exact := by
  rw [Policy.mode, Policy.mode]
  cases ha : (Policy.ofLookup a).caseSensitive with
  | true => exact .inr rfl
  | false =>
    have hb : (Policy.ofLookup b).caseSensitive = false :=
      Bool.eq_false_iff.2 fun hb => Bool.false_ne_true (ha.symm.trans (h.caseSensitive hb))
    exact .inl (by rw [hb])

/-- Names of one key keep having one key. -/
theorem key_eq {n name : String}
    (hk : (Policy.ofLookup a).mode.key n = (Policy.ofLookup a).mode.key name) :
    (Policy.ofLookup b).mode.key n = (Policy.ofLookup b).mode.key name := by
  rcases h.mode_cases with heq | hexact
  · rwa [heq]
  · rw [hexact] at hk
    exact congrArg _ hk

theorem listed_names_eq : listed b allowedNamesKey = listed a allowedNamesKey := by
  rw [listed, listed, h.names]

theorem supplied_names_eq : supplied b allowedNamesKey = supplied a allowedNamesKey := by
  rw [supplied, supplied, h.names]

theorem supplied_patterns_eq : supplied b allowedPatternsKey = supplied a allowedPatternsKey := by
  rw [supplied, supplied, h.patterns]

/-- Both have the names of one list, each in its mode. -/
theorem exists_names : ∃ names, (Policy.ofLookup a).names = .ofList (Policy.ofLookup a).mode names ∧
    (Policy.ofLookup b).names = .ofList (Policy.ofLookup b).mode names := by
  rw [Policy.names_ofLookup, Policy.names_ofLookup, Policy.mode, Policy.mode,
    Policy.caseSensitive_ofLookup, Policy.caseSensitive_ofLookup, h.supplied_names_eq, h.listed_names_eq]
  exact ⟨_, rfl, rfl⟩

theorem contains_of_contains {name : String} (hn : (Policy.ofLookup a).names.contains name = true) :
    (Policy.ofLookup b).names.contains name = true := by
  obtain ⟨names, ha, hb⟩ := h.exists_names
  rw [ha, NameSet.contains_ofList] at hn
  obtain ⟨n, hm, hk⟩ := hn
  rw [hb, NameSet.contains_ofList]
  exact ⟨n, hm, h.key_eq hk⟩

theorem size_le : (Policy.ofLookup b).names.size ≤ (Policy.ofLookup a).names.size := by
  obtain ⟨names, ha, hb⟩ := h.exists_names
  rw [ha, hb]
  rcases h.mode_cases with heq | hexact
  · rw [heq]
  · rw [hexact]
    exact NameSet.size_le_size_exact _ names

/-- Without patterns, no name that passes is lost. -/
theorem passes {clock clock' : Clock} (hp : supplied a allowedPatternsKey = false) {name : String}
    (hpass : RuleChain.standard.failures clock (Policy.ofLookup a) name = []) :
    RuleChain.standard.failures clock' (Policy.ofLookup b) name = [] := by
  have hcustom : (Policy.ofLookup b).custom = (Policy.ofLookup a).custom := by
    rw [Policy.custom_ofLookup, Policy.custom_ofLookup, h.supplied_names_eq, h.supplied_patterns_eq]
  cases hb : Text.isBlank name with
  | true =>
    rw [RuleChain.failures_standard_of_blank _ _ hb] at hpass ⊢
    cases ha : (Policy.ofLookup a).allowEmpty with
    | true => rw [h.allowEmpty ha, if_pos rfl]
    | false => simp [ha] at hpass
  | false =>
    cases hc : (Policy.ofLookup a).custom with
    | false =>
      rw [RuleChain.failures_standard_of_not_custom _ _ hb hc] at hpass
      rw [RuleChain.failures_standard_of_not_custom _ _ hb (hcustom.trans hc)]
      cases hn : (Policy.ofLookup a).names.contains name with
      | true => rw [h.contains_of_contains hn, if_pos rfl]
      | false => simp [hn] at hpass
    | true =>
      have hnone : (Policy.ofLookup a).patterns = [] := by
        rw [Policy.patterns_ofLookup, listed_of_not_supplied hp]
        rfl
      have hnone' : (Policy.ofLookup b).patterns = [] := by
        rw [Policy.patterns_ofLookup, listed_of_not_supplied (h.supplied_patterns_eq.trans hp)]
        rfl
      rw [failures_eq_nil_iff hc hb, hnone, ← Policy.caseSensitive_ofLookup] at hpass
      rw [failures_eq_nil_iff (hcustom.trans hc) hb, hnone', h.listed_names_eq,
        ← Policy.caseSensitive_ofLookup]
      rcases hpass with hempty | ⟨n, hm, hk⟩ | ⟨pattern, hm, _⟩
      · exact .inl hempty
      · exact .inr (.inl ⟨n, hm, h.key_eq hk⟩)
      · exact absurd hm List.not_mem_nil

end Relaxes

/-- Under options without patterns, no name that passes is lost when flags fall back on their defaults. In
particular what passes with regard to letter case passes without it, by given names and by default names
alike, and without it there are no more different names. -/
theorem passes_of_fallback {a : Lookup} (hp : supplied a allowedPatternsKey = false)
    (clock clock' : Clock) :
    (∀ b, FlagsFallBack a b → ∀ name,
      RuleChain.standard.failures clock (Policy.ofLookup a) name = [] →
        RuleChain.standard.failures clock' (Policy.ofLookup b) name = []) ∧
    (∀ b, IgnoresCase a b →
      (∀ name, RuleChain.standard.failures clock (Policy.ofLookup a) name = [] →
        RuleChain.standard.failures clock' (Policy.ofLookup b) name = []) ∧
      (Policy.ofLookup b).names.size ≤ (Policy.ofLookup a).names.size) ∧
    ∀ names, (NameSet.ofList .ignored names).size ≤ (NameSet.ofList .exact names).size := by
  refine ⟨fun b h name => h.relaxes.passes hp, fun b h => ⟨fun name => ?_, ?_⟩, fun names => ?_⟩
  · exact h.relaxes.passes hp
  · exact h.relaxes.size_le
  · exact NameSet.size_le_size_exact .ignored names

/-- Two names that one key stands for, under a flag that is spoiled, and a flag that is removed. -/
theorem passes_of_fallback_spoiled :
    let a : Lookup := fun key => if key = allowedNamesKey then some "Main;main"
      else if key = caseSensitiveKey then some " True " else if key = allowEmptyKey then some "false"
      else none
    let b : Lookup := fun key => if key = allowedNamesKey then some "Main;main"
      else if key = caseSensitiveKey then some "yes" else none
    supplied a allowedPatternsKey = false ∧ FlagsFallBack a b ∧
      RuleChain.standard.failures .still (Policy.ofLookup a) "main" = [] ∧
      RuleChain.standard.failures .still (Policy.ofLookup b) "main" = [] := by
  intro a b
  have hp : supplied a allowedPatternsKey = false := by decide
  have h : FlagsFallBack a b := by
    refine ⟨.spoiled (by decide), .removed, fun key hc he => ?_⟩
    simp [a, b, hc, he]
  have hpass : RuleChain.standard.failures .still (Policy.ofLookup a) "main" = [] := by decide
  exact ⟨hp, h, hpass, (passes_of_fallback hp .still .still).1 b h "main" hpass⟩

end RegionNaming
