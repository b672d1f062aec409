import RegionNaming.Proofs.RuleChain

/-! The order and the number in which rules are given to a chain. The chain sorts its rules and no two
of them share a priority, so their order is lost, and with it all that could hang on it. Whether a
region passes hangs on which rules there are, and not on how often each was given. -/

namespace RegionNaming.RuleChain

variable (clock : Clock)

theorem mem_rules_ofRules_iff (rules : List Rule) (r : Rule) : r ∈ (ofRules rules).rules ↔ r ∈ rules :=
  (rules_ofRules_perm rules).mem_iff

/-- Rules given in another order make the same chain. -/
theorem ofRules_eq_of_perm {rules others : List Rule} (h : rules.Perm others) :
    ofRules rules = ofRules others := by
  have hperm : (ofRules rules).rules.Perm (ofRules others).rules :=
    (rules_ofRules_perm rules).trans (h.trans (rules_ofRules_perm others).symm)
  have hrules : (ofRules rules).rules = (ofRules others).rules :=
    eq_of_perm_of_ordered (rules_ofRules_ordered rules) (rules_ofRules_ordered others) hperm
  exact congrArg RuleChain.mk hrules

/-- A region passes a chain exactly if one of its rules applies and passes it, or none applies. -/
theorem failures_eq_nil_iff_rules (c : RuleChain) (p : Policy) (name : String) :
    c.failures clock p name = [] ↔
      (∃ r ∈ c.rules, r.applies p name = true ∧ r.verdict clock p name = .pass) ∨
        ∀ r ∈ c.rules, ¬ r.applies p name = true := by
  have hpass : (∃ r ∈ applying c.rules p name, r.verdict clock p name = .pass) ↔
      ∃ r ∈ c.rules, r.applies p name = true ∧ r.verdict clock p name = .pass := by
    simp only [List.mem_filter, and_assoc]
  rw [failures_eq, ← hpass]
  split
  case isTrue h => exact iff_of_true rfl (.inl h)
  case isFalse h => rw [List.map_eq_nil_iff, List.filter_eq_nil_iff, or_iff_right h]

/-- Chains with the same rules, however often, pass the same regions. -/
theorem passes_iff_of_same_rules {c d : RuleChain} (h : ∀ r, r ∈ c.rules ↔ r ∈ d.rules) (p : Policy)
    (name : String) : c.failures clock p name = [] ↔ d.failures clock p name = [] := by
  simp only [failures_eq_nil_iff_rules, h]

/-- The order in which rules are given is not seen. Two orders of the same rules give the same chain,
ascending and with each rule as often as given, and so the same failures, records and diagnostics of
every region. Lists that hold the same rules, in whatever number, pass the same regions. -/
theorem ofRules_order_irrelevant (rules others : List Rule) :
    (rules.Perm others →
      (ofRules rules).rules = (ofRules others).rules ∧
      (ofRules rules).rules.Pairwise (fun a b => a.priority ≤ b.priority) ∧
      (∀ r, (ofRules rules).rules.count r = rules.count r) ∧
      ∀ (clock : Clock) (p : Policy) (name : String),
        (ofRules rules).failures clock p name = (ofRules others).failures clock p name ∧
        (ofRules rules).records clock p name = (ofRules others).records clock p name ∧
        ∀ (L : Type) (location : L),
          (ofRules rules).diagnostics clock p name location =
            (ofRules others).diagnostics clock p name location) ∧
    ((∀ r, r ∈ rules ↔ r ∈ others) → ∀ (clock : Clock) (p : Policy) (name : String),
      (ofRules rules).failures clock p name = [] ↔ (ofRules others).failures clock p name = []) := by
  constructor
  · intro hperm
    refine ⟨?_, rules_ofRules_ordered rules, (rules_ofRules_perm rules).count_eq, ?_⟩
    · rw [ofRules_eq_of_perm hperm]
    · intro clock p name
      rw [ofRules_eq_of_perm hperm]
      exact ⟨rfl, rfl, fun L location => rfl⟩
  · intro hsame clock p name
    apply passes_iff_of_same_rules
    intro r
    rw [mem_rules_ofRules_iff, mem_rules_ofRules_iff, hsame r]

/-- A rule given twice, in two orders and then once. -/
theorem ofRules_order_irrelevant_repeated :
    let given : List Rule := [.pattern, .empty, .pattern]
    let swapped : List Rule := [.pattern, .pattern, .empty]
    let once : List Rule := [.empty, .pattern]
    given.Perm swapped ∧ (ofRules swapped).rules = [.empty, .pattern, .pattern] ∧
      (∀ (clock : Clock) (p : Policy) (name : String),
        (ofRules given).records clock p name = (ofRules swapped).records clock p name) ∧
      ∀ (clock : Clock) (p : Policy) (name : String),
        (ofRules given).failures clock p name = [] ↔ (ofRules once).failures clock p name = [] := by
  intro given swapped once
  have hperm : given.Perm swapped := by decide
  have hsame : ∀ r, r ∈ given ↔ r ∈ once := by
    intro r
    cases r <;> decide
  obtain ⟨hrules, _, _, hruns⟩ := (ofRules_order_irrelevant given swapped).1 hperm
  refine ⟨hperm, hrules.symm, fun clock p name => (hruns clock p name).2.1, ?_⟩
  exact (ofRules_order_irrelevant given once).2 hsame

end RegionNaming.RuleChain
