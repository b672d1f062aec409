import RegionNaming.Proofs.OptionVerdicts

/-! Lists that grow. As soon as a policy has something to compare names with, longer lists let every name
pass that passed before, whatever is appended. A list of delimiters only compares with nothing and lets
every name pass, so there the first entry can do harm. -/

namespace RegionNaming

open Options

/-- A list option that grows: it stays as it is, a text is appended behind a semicolon, or it is given
where it was missing. -/
inductive Grows : Option String → Option String → Prop where
  | same (value : Option String) : Grows value value
  | appended (value more : String) : Grows (some value) (some (value ++ ";" ++ more))
  | given (value : String) : Grows none (some value)

structure Extends (a b : Lookup) : Prop where
  names : Grows (a allowedNamesKey) (b allowedNamesKey)
  patterns : Grows (a allowedPatternsKey) (b allowedPatternsKey)
  others : ∀ key, key ≠ allowedNamesKey → key ≠ allowedPatternsKey → b key = a key

/-- A policy that has something to compare names with: a name from a given list, or a pattern. -/
def Policy.Usable (p : Policy) : Prop :=
  (p.customNames = true ∧ p.names.isEmpty = false) ∨ p.patterns ≠ []

theorem Grows.listed_subset {a b : Lookup} {key : String} (h : Grows (a key) (b key)) :
    listed a key ⊆ listed b key := by
  rw [listed_eq_items, listed_eq_items]
  generalize a key = old at h
  generalize b key = new at h
  cases h with
  | same => exact List.Subset.refl _
  | appended value more =>
    change items value ⊆ items (value ++ ";" ++ more)
    rw [items_append]
    exact List.subset_append_left _ _
  | given => exact List.nil_subset _

theorem usable_ofLookup_iff (lookup : Lookup) :
    (Policy.ofLookup lookup).Usable ↔
      listed lookup allowedNamesKey ≠ [] ∨ (Policy.ofLookup lookup).patterns ≠ [] := by
  have hleft := Policy.names_left lookup
  rw [Bool.eq_iff_iff, Bool.and_eq_true, Bool.not_eq_true', Bool.not_eq_true'] at hleft
  rw [Policy.Usable, hleft, List.isEmpty_eq_false_iff]

theorem custom_of_usable {lookup : Lookup} (hu : (Policy.ofLookup lookup).Usable) :
    (Policy.ofLookup lookup).custom = true := by
  have hleft := Policy.patterns_left lookup
  rw [Policy.custom, Bool.or_eq_true]
  rcases hu with ⟨hnames, _⟩ | hpatterns
  · exact .inl hnames
  · rw [List.isEmpty_eq_false_iff.2 hpatterns, Bool.not_false, Bool.and_true] at hleft
    exact .inr hleft

/-- Under a usable policy a name that is not blank passes only by what it is compared with. -/
theorem passes_iff_of_usable {clock : Clock} {lookup : Lookup} (hu : (Policy.ofLookup lookup).Usable)
    {name : String} (hb : Text.isBlank name = false) :
    RuleChain.standard.failures clock (Policy.ofLookup lookup) name = [] ↔
      (∃ n ∈ listed lookup allowedNamesKey,
        (CaseMode.ofSensitive ((lookup caseSensitiveKey).bind flag? == some true)).key n =
          (CaseMode.ofSensitive ((lookup caseSensitiveKey).bind flag? == some true)).key name) ∨
      ∃ pattern ∈ (Policy.ofLookup lookup).patterns, clock.attempt name pattern = .matched := by
  rw [failures_eq_nil_iff (custom_of_usable hu) hb]
  refine or_iff_right ?_
  rintro ⟨hnames, hpatterns⟩
  rcases (usable_ofLookup_iff lookup).1 hu with hne | hne
  · exact hne hnames
  · exact hne hpatterns

namespace Extends

variable {a b : Lookup} (h : Extends a b)
include h

theorem caseSensitive_eq : b caseSensitiveKey = a caseSensitiveKey :=
  h.others caseSensitiveKey (by decide) (by decide)

theorem allowEmpty_eq : (Policy.ofLookup b).allowEmpty = (Policy.ofLookup a).allowEmpty :=
  Policy.flag_congr (h.others allowEmptyKey (by decide) (by decide)) true

theorem patterns_subset : (Policy.ofLookup a).patterns ⊆ (Policy.ofLookup b).patterns := by
  rw [Policy.patterns_ofLookup, Policy.patterns_ofLookup, h.caseSensitive_eq]
  exact List.filterMap_subset _ h.patterns.listed_subset

theorem usable (hu : (Policy.ofLookup a).Usable) : (Policy.ofLookup b).Usable := by
  rw [usable_ofLookup_iff] at hu ⊢
  rcases hu with hne | hne
  · exact .inl fun he => hne (List.subset_nil.1 (he ▸ h.names.listed_subset))
  · exact .inr fun he => hne (List.subset_nil.1 (he ▸ h.patterns_subset))

end Extends

/-- Under options whose policy is usable, no name that passes is lost when the lists grow, as long as no
attempt on it lasts too long under the longer lists. -/
theorem passes_of_extends {clock clock' : Clock} {a b : Lookup} (h : Extends a b)
    (hu : (Policy.ofLookup a).Usable) {name : String} (ht : (Policy.ofLookup b).InTime clock' name)
    (hp : RuleChain.standard.failures clock (Policy.ofLookup a) name = []) :
    RuleChain.standard.failures clock' (Policy.ofLookup b) name = [] := by
  cases hb : Text.isBlank name with
  | true =>
    rw [RuleChain.failures_standard_of_blank _ _ hb] at hp ⊢
    rwa [h.allowEmpty_eq]
  | false =>
    rw [passes_iff_of_usable hu hb] at hp
    rw [passes_iff_of_usable (h.usable hu) hb, h.caseSensitive_eq]
    rcases hp with ⟨n, hn, hkey⟩ | ⟨pattern, hm, hmatch⟩
    · exact .inl ⟨n, h.names.listed_subset hn, hkey⟩
    · have hb := h.patterns_subset hm
      exact .inr ⟨pattern, hb, (Clock.attempt_eq_matched_iff (ht pattern hb)).2
        (Clock.occursIn_of_matched hmatch)⟩

/-- A pattern lets the name pass. Then names are listed for the first time, which makes their rule apply,
and a malformed pattern is appended. -/
theorem passes_of_extends_first_list :
    let a : Lookup := fun key => if key = allowedPatternsKey then some "^Pub" else none
    let b : Lookup := fun key => if key = allowedPatternsKey then some ("^Pub" ++ ";" ++ "(,")
      else if key = allowedNamesKey then some "Main" else none
    Extends a b ∧ (Policy.ofLookup a).Usable ∧ (Policy.ofLookup b).InTime .still "public" ∧
      RuleChain.standard.failures .still (Policy.ofLookup a) "public" = [] ∧
      RuleChain.standard.failures .still (Policy.ofLookup b) "public" = [] := by
  intro a b
  have h : Extends a b := by
    refine ⟨.given "Main", .appended "^Pub" "(,", fun key hn hp => ?_⟩
    simp [a, b, hn, hp]
  have hu : (Policy.ofLookup a).Usable := .inr (by decide)
  have ht : (Policy.ofLookup b).InTime .still "public" := fun _ _ => Nat.zero_le _
  have hp : RuleChain.standard.failures .still (Policy.ofLookup a) "public" = [] := by decide
  exact ⟨h, hu, ht, hp, passes_of_extends h hu ht hp⟩

example :
    RuleChain.standard.failures .still (Policy.ofLookup fun key =>
      if key = allowedNamesKey then some "," else none) "x" = [] ∧
    RuleChain.standard.failures .still (Policy.ofLookup fun key =>
      if key = allowedNamesKey then some (",;" ++ "Main") else none) "x" =
        [.fail .invalidName "x"] := by
  decide

end RegionNaming
