import Mathlib.Data.List.Forall2
import RegionNaming.Proofs.Text
import RegionNaming.Rules.Chain

/-! The protocol of a chain of rules. Whatever rules it is made of, a chain passes a region when one
of the rules that apply passes it, and otherwise reports all of them in the order of priority. How long
its attempts last makes a difference only if one of them lasts too long. -/

namespace RegionNaming

theorem Rule.priority_injective : Function.Injective Rule.priority := by
  intro a b h
  cases a <;> cases b <;> first | rfl | cases h

/-- No attempt to find one of the patterns of a policy in a name lasts longer than it may. -/
def Policy.InTime (p : Policy) (clock : Clock) (name : String) : Prop :=
  ∀ pattern ∈ p.patterns, clock pattern name ≤ pattern.budget

instance (p : Policy) (clock : Clock) (name : String) : Decidable (p.InTime clock name) :=
  inferInstanceAs (Decidable (∀ pattern ∈ p.patterns, clock pattern name ≤ pattern.budget))

namespace Clock

variable {clock : Clock} {name : String} {p : NamePattern}

/-- Only what occurs in a name is found in it, however long that takes. -/
theorem occursIn_of_matched (h : clock.attempt name p = .matched) : p.expr.occursIn name.toList = true := by
  rw [attempt, NamePattern.attempt] at h
  split at h
  · cases h
  · split at h
    case isTrue ho => exact ho
    case isFalse => cases h

/-- What occurs in a name is found in it if that does not take too long. -/
theorem attempt_eq_matched_iff (h : clock p name ≤ p.budget) :
    clock.attempt name p = .matched ↔ p.expr.occursIn name.toList = true := by
  refine ⟨occursIn_of_matched, fun ho => ?_⟩
  rw [attempt, NamePattern.attempt, if_neg (Nat.not_lt.2 h), if_pos ho]

theorem tried_subset (patterns : List NamePattern) : clock.tried name patterns ⊆ patterns := by
  induction patterns with
  | nil => exact List.Subset.refl _
  | cons q rest ih =>
    rw [tried]
    split
    · exact List.cons_subset_cons _ (List.nil_subset _)
    · exact List.cons_subset_cons _ ih

/-- Attempts that do not last too long are not warned of. -/
theorem records_of_inTime {policy : Policy} (h : policy.InTime clock name) :
    clock.records name policy.patterns = [] := by
  refine List.filterMap_eq_nil_iff.2 fun q hq => ?_
  exact if_neg (Nat.not_lt.2 (h q (tried_subset _ hq)))

end Clock

namespace RuleChain

abbrev Ordered (rules : List Rule) : Prop := rules.Pairwise fun a b => a.priority ≤ b.priority

theorem place_perm (r : Rule) (rules : List Rule) : (place r rules).Perm (r :: rules) := by
  induction rules with
  | nil => exact .refl _
  | cons s rest ih =>
    rw [place]
    split
    · exact .refl _
    · exact (ih.cons s).trans (.swap r s rest)

theorem place_ordered (r : Rule) {rules : List Rule} (h : Ordered rules) :
    Ordered (place r rules) := by
  induction rules with
  | nil => simp [place]
  | cons s rest ih =>
    obtain ⟨hs, hrest⟩ := List.pairwise_cons.1 h
    rw [place]
    split
    case isTrue hle =>
      refine List.pairwise_cons.2 ⟨fun t ht => ?_, h⟩
      rcases List.mem_cons.1 ht with rfl | ht
      · exact hle
      · exact hle.trans (hs t ht)
    case isFalse hlt =>
      refine List.pairwise_cons.2 ⟨fun t ht => ?_, ih hrest⟩
      rcases List.mem_cons.1 ((place_perm r rest).mem_iff.1 ht) with rfl | ht
      · omega
      · exact hs t ht

theorem rules_ofRules_perm (rules : List Rule) : (ofRules rules).rules.Perm rules := by
  induction rules with
  | nil => exact .refl _
  | cons r rest ih => exact (place_perm r _).trans (ih.cons r)

theorem rules_ofRules_ordered (rules : List Rule) : Ordered (ofRules rules).rules := by
  induction rules with
  | nil => exact .nil
  | cons r rest ih => exact place_ordered r ih

/-- No two rules share a priority, so the order of given rules is settled by it alone. -/
theorem eq_of_perm_of_ordered {a b : List Rule} (ha : Ordered a) (hb : Ordered b)
    (h : a.Perm b) : a = b :=
  h.eq_of_pairwise (fun _ _ _ _ hab hba => Rule.priority_injective (Nat.le_antisymm hab hba)) ha hb

abbrev applying (rules : List Rule) (p : Policy) (name : String) : List Rule :=
  rules.filter (·.applies p name)

/-- The given rules that have a say about a name, in ascending order of priority, repeated ones
kept. -/
def applicable (rules : List Rule) (p : Policy) (name : String) : List Rule :=
  (applying rules p name).mergeSort fun a b => a.priority ≤ b.priority

theorem applicable_perm (rules : List Rule) (p : Policy) (name : String) :
    (applicable rules p name).Perm (applying rules p name) :=
  List.mergeSort_perm _ _

theorem applicable_ordered (rules : List Rule) (p : Policy) (name : String) :
    Ordered (applicable rules p name) := by
  have h : (applicable rules p name).Pairwise fun a b => decide (a.priority ≤ b.priority) := by
    apply List.pairwise_mergeSort
    · intro a b c hab hbc
      simp only [decide_eq_true_eq] at hab hbc ⊢
      exact hab.trans hbc
    · intro a b
      simp only [Bool.or_eq_true, decide_eq_true_eq]
      exact Nat.le_total _ _
  exact h.imp of_decide_eq_true

/-- The rules of a chain that apply are those of the rules it was made of, in their order. -/
theorem applying_rules_ofRules (rules : List Rule) (p : Policy) (name : String) :
    applying (ofRules rules).rules p name = applicable rules p name := by
  apply eq_of_perm_of_ordered
  · exact (rules_ofRules_ordered rules).filter _
  · exact applicable_ordered rules p name
  · exact ((rules_ofRules_perm rules).filter _).trans (applicable_perm rules p name).symm

variable {clock : Clock} (p : Policy) (name : String)

/-- Trying rules meets a pass exactly when one of the rules that apply passes. -/
theorem any_pass_tryRules (rules : List Rule) :
    (tryRules clock p name rules).any (·.2.isPass) =
      (applying rules p name).any fun r => (r.verdict clock p name).isPass := by
  induction rules with
  | nil => rfl
  | cons r rest ih =>
    by_cases ha : r.applies p name
    · by_cases hv : (r.verdict clock p name).isPass
      · simp [tryRules, ha, hv]
      · simp [tryRules, ha, hv, ih]
    · simp [tryRules, ha, ih]

/-- As long as no rule passes, every rule that applies is tried and keeps its verdict. -/
theorem tryRules_of_no_pass {rules : List Rule}
    (h : ∀ r ∈ applying rules p name, (r.verdict clock p name).isPass = false) :
    tryRules clock p name rules =
      (applying rules p name).map fun r => (r, r.verdict clock p name) := by
  induction rules with
  | nil => rfl
  | cons r rest ih =>
    by_cases ha : r.applies p name
    · have hf : applying (r :: rest) p name = r :: applying rest p name :=
        List.filter_cons_of_pos ha
      rw [hf] at h ⊢
      obtain ⟨hr, hrest⟩ := List.forall_mem_cons.1 h
      simp [tryRules, ha, hr, ih hrest]
    · have hf : applying (r :: rest) p name = applying rest p name := List.filter_cons_of_neg ha
      rw [hf] at h ⊢
      simp [tryRules, ha, ih h]

theorem isPass_iff (v : Verdict) : v.isPass = true ↔ v = .pass := by
  cases v <;> simp [Verdict.isPass]

/-- A rule that does not pass a name has a finding of its own. -/
theorem finding?_verdict {r : Rule} (h : r.verdict clock p name ≠ .pass) :
    (r.verdict clock p name).finding? = some r.finding := by
  rw [Rule.verdict] at h ⊢
  split at h
  case isTrue => exact absurd rfl h
  case isFalse hpass => rw [if_neg hpass]; rfl

/-- The failures of a chain: none if a rule that applies passes, else the verdicts of all that
apply. -/
theorem failures_eq (c : RuleChain) :
    c.failures clock p name =
      if ∃ r ∈ applying c.rules p name, r.verdict clock p name = .pass then []
      else (applying c.rules p name).map (·.verdict clock p name) := by
  rw [failures, tried, any_pass_tryRules]
  simp only [List.any_eq_true, isPass_iff]
  split
  case isTrue => rfl
  case isFalse h =>
    have hno : ∀ r ∈ applying c.rules p name, (r.verdict clock p name).isPass = false := by
      intro r hr
      rw [Bool.eq_false_iff]
      exact fun hv => h ⟨r, hr, (isPass_iff _).1 hv⟩
    rw [tryRules_of_no_pass p name hno, List.map_map]
    rfl

theorem pass_not_mem_failures (c : RuleChain) : Verdict.pass ∉ c.failures clock p name := by
  rw [failures_eq]
  split
  case isTrue => exact List.not_mem_nil
  case isFalse h =>
    intro hm
    obtain ⟨r, hr, hv⟩ := List.mem_map.1 hm
    exact h ⟨r, hr, hv⟩

/-- Every failure is the verdict of a rule that applies. -/
theorem exists_rule_of_mem_failures {c : RuleChain} {v : Verdict} (h : v ∈ c.failures clock p name) :
    ∃ r ∈ applying c.rules p name, v = r.verdict clock p name := by
  rw [failures_eq] at h
  split at h
  case isTrue => cases h
  case isFalse =>
    obtain ⟨r, hr, hv⟩ := List.mem_map.1 h
    exact ⟨r, hr, hv.symm⟩

/-- What is reported of a region is the finding of a rule that applies, at the place of the region and
about its name or a missing one. -/
theorem exists_rule_of_mem_diagnostics {L : Type} {c : RuleChain} {location : L} {d : Diagnostic L}
    (h : d ∈ c.diagnostics clock p name location) :
    ∃ r ∈ applying c.rules p name,
      d = ⟨r.finding, location, if r = .empty ∨ Text.isBlank name then emptyArgument else name⟩ := by
  obtain ⟨v, hv, hd⟩ := List.mem_filterMap.1 h
  obtain ⟨r, hr, rfl⟩ := exists_rule_of_mem_failures p name hv
  refine ⟨r, hr, ?_⟩
  rw [Rule.verdict] at hd
  split at hd
  case isTrue => cases hd
  case isFalse =>
    cases hd
    by_cases he : r = .empty <;> simp [he, emptyArgument]

theorem of_mem_diagnostics {L : Type} {c : RuleChain} {location : L} {d : Diagnostic L}
    (h : d ∈ c.diagnostics clock p name location) :
    d.location = location ∧ (d.argument = name ∨ d.argument = "[empty]") := by
  obtain ⟨r, _, rfl⟩ := exists_rule_of_mem_diagnostics p name h
  refine ⟨rfl, ?_⟩
  dsimp only
  split
  · exact .inr rfl
  · exact .inl rfl

/-- A finding of a missing name speaks of the placeholder. -/
theorem argument_of_empty {L : Type} {c : RuleChain} {location : L} {d : Diagnostic L}
    (h : d ∈ c.diagnostics clock p name location) (he : d.finding = .empty) : d.argument = "[empty]" := by
  obtain ⟨r, _, rfl⟩ := exists_rule_of_mem_diagnostics p name h
  cases r with
  | empty => simp [emptyArgument]
  | _ => cases he

/-- How a verdict is reported at a place: as its finding, with the name it speaks of, or with a
placeholder if that name is blank. -/
def ReportedAs {L : Type} (location : L) (v : Verdict) (d : Diagnostic L) : Prop :=
  ∃ finding name, v = .fail finding name ∧
    d = ⟨finding, location, if Text.trim name = "" then "[empty]" else name⟩

private theorem toDiagnostic?_fail {L : Type} (location : L) (finding : Finding) (name : String) :
    ∃ d, (Verdict.fail finding name).toDiagnostic? location = some d ∧
      ReportedAs location (.fail finding name) d := by
  refine ⟨_, rfl, finding, name, rfl, ?_⟩
  simp only [Text.trim_eq_empty_iff]
  rfl

/-- Failures are reported one by one and in order. -/
theorem filterMap_toDiagnostic? {L : Type} (location : L) {vs : List Verdict}
    (h : Verdict.pass ∉ vs) :
    List.Forall₂ (ReportedAs location) vs (vs.filterMap (·.toDiagnostic? location)) := by
  induction vs with
  | nil => exact .nil
  | cons v rest ih =>
    obtain ⟨hv, hrest⟩ := not_or.1 (fun hm => h (List.mem_cons.2 hm))
    cases v with
    | pass => exact absurd rfl hv
    | fail finding name =>
      obtain ⟨d, hd, hr⟩ := toDiagnostic?_fail location finding name
      rw [List.filterMap_cons_some hd]
      exact .cons hr (ih hrest)

/-- The protocol of a chain made of any rules, under any policy. A pass of one rule that applies
clears all failures; without one the verdicts of all that apply count, in ascending priority. No
failure is a pass, and the diagnostics report the failures one by one in the same order. -/
theorem chain_protocol {L : Type} (rules : List Rule) (location : L) :
    (ofRules rules).failures clock p name =
      (if ∃ r ∈ applicable rules p name, r.verdict clock p name = .pass then []
        else (applicable rules p name).map (·.verdict clock p name)) ∧
    Verdict.pass ∉ (ofRules rules).failures clock p name ∧
    List.Forall₂ (ReportedAs location) ((ofRules rules).failures clock p name)
      ((ofRules rules).diagnostics clock p name location) := by
  refine ⟨?_, pass_not_mem_failures p name _, ?_⟩
  · rw [failures_eq, applying_rules_ofRules]
  · exact filterMap_toDiagnostic? location (pass_not_mem_failures p name _)

end RuleChain

end RegionNaming
