import RegionNaming.Proofs.RuleChain

/-! What the log of a chain tells of its verdict. A record is read through its text alone: it names a rule
and says whether the region is valid. The records follow the rules that apply up to the first one that
passes, so the last of them shows whether the region passes, and if it does not they name the failures. -/

namespace RegionNaming.RuleChain

def ruleNamed? (entry : Log.Record) : Option Rule := do
  let rest ← Text.after? "Rule ".toList entry.text.toList
  let (word, _) ← Text.cutAt ' ' rest
  Rule.ofName? (String.ofList word)

def saysValid (entry : Log.Record) : Bool := ": valid".toList.isSuffixOf entry.text.toList

def traceOf (clock : Clock) (p : Policy) (name : String) (r : Rule) : Log.Record :=
  ⟨.trace, .rules, "Rule " ++ r.name ++ " on region '" ++ name ++ "': " ++
    if r.verdict clock p name = .pass then "valid" else "invalid"⟩

/-- How many of the rules that apply are tried: all of them if none passes, else those up to and
including the first one that passes, and none behind it. -/
inductive TriedUpTo (clock : Clock) (p : Policy) (name : String) : List Rule → List Rule → Prop
  | all {rules : List Rule} (h : ∀ r ∈ rules, r.verdict clock p name ≠ .pass) :
      TriedUpTo clock p name rules rules
  | pass {failing : List Rule} {r : Rule} (spared : List Rule)
      (h : ∀ s ∈ failing, s.verdict clock p name ≠ .pass) (hr : r.verdict clock p name = .pass) :
      TriedUpTo clock p name (failing ++ r :: spared) (failing ++ [r])

variable {clock : Clock} {p : Policy} {name : String}

/-- A rule that fails is tried before the others. -/
theorem TriedUpTo.cons {r : Rule} {rules tried : List Rule} (hr : r.verdict clock p name ≠ .pass)
    (h : TriedUpTo clock p name rules tried) : TriedUpTo clock p name (r :: rules) (r :: tried) := by
  cases h with
  | all h => exact .all (List.forall_mem_cons.2 ⟨hr, h⟩)
  | pass spared h hpass => exact .pass spared (List.forall_mem_cons.2 ⟨hr, h⟩) hpass

theorem TriedUpTo.sublist {rules tried : List Rule} (h : TriedUpTo clock p name rules tried) :
    tried.Sublist rules := by
  cases h with
  | all => exact .refl _
  | pass spared => exact (List.Sublist.refl _).append ((List.nil_sublist spared).cons_cons _)

/-- Of any rules those that apply are tried, up to the first that passes, and each keeps its verdict. -/
theorem exists_triedUpTo (clock : Clock) (p : Policy) (name : String) (rules : List Rule) :
    ∃ tried, TriedUpTo clock p name (applying rules p name) tried ∧
      tryRules clock p name rules = tried.map fun r => (r, r.verdict clock p name) := by
  induction rules with
  | nil => exact ⟨[], .all (List.forall_mem_nil _), rfl⟩
  | cons r rest ih =>
    obtain ⟨tried, hup, htry⟩ := ih
    by_cases ha : r.applies p name
    · have hcons : applying (r :: rest) p name = r :: applying rest p name :=
        List.filter_cons_of_pos ha
      rw [hcons, tryRules, if_pos ha]
      by_cases hv : r.verdict clock p name = .pass
      · refine ⟨[r], @TriedUpTo.pass clock p name [] r _ (List.forall_mem_nil _) hv, ?_⟩
        rw [if_pos ((isPass_iff _).2 hv)]
        rfl
      · refine ⟨r :: tried, hup.cons hv, ?_⟩
        rw [if_neg (mt (isPass_iff _).1 hv), htry]
        rfl
    · have hskip : applying (r :: rest) p name = applying rest p name := List.filter_cons_of_neg ha
      rw [hskip, tryRules, if_neg ha]
      exact ⟨tried, hup, htry⟩

/-- No name of a rule holds a blank, so a record names the rule that left it. -/
theorem ruleNamed?_traceOf (clock : Clock) (p : Policy) (name : String) (r : Rule) :
    ruleNamed? (traceOf clock p name r) = some r := by
  obtain ⟨rest, hrest⟩ : ∃ rest, (traceOf clock p name r).text.toList =
      "Rule ".toList ++ (r.name.toList ++ ' ' :: rest) := by
    simp only [traceOf, String.toList_append, List.append_assoc]
    exact ⟨_, rfl⟩
  have hafter : Text.after? "Rule ".toList (traceOf clock p name r).text.toList =
      some (r.name.toList ++ ' ' :: rest) :=
    (Text.after?_eq_some_iff ..).2 hrest
  have hblank : ' ' ∉ r.name.toList := by cases r <;> decide
  have hcut : Text.cutAt ' ' (r.name.toList ++ ' ' :: rest) = some (r.name.toList, rest) :=
    (Text.cutAt_eq_some_iff ..).2 ⟨rfl, hblank⟩
  have hname : Rule.ofName? r.name = some r := by cases r <;> rfl
  rw [ruleNamed?, hafter]
  simp [hcut, hname]

/-- A record says what the verdict of its rule was. -/
theorem saysValid_traceOf (clock : Clock) (p : Policy) (name : String) (r : Rule) :
    saysValid (traceOf clock p name r) = true ↔ r.verdict clock p name = .pass := by
  have hend (word : String) : (": " ++ word).toList <:+
      ("Rule " ++ r.name ++ " on region '" ++ name ++ "': " ++ word).toList :=
    ⟨("Rule " ++ r.name ++ " on region '" ++ name ++ "'").toList, by simp⟩
  rw [saysValid, traceOf, List.isSuffixOf_iff_suffix]
  split
  case isTrue h => exact iff_of_true (hend "valid") h
  case isFalse h =>
    refine iff_of_false (fun hsuffix => ?_) h
    have hword : ": valid".toList <:+ ": invalid".toList :=
      List.suffix_of_suffix_length_le hsuffix (hend "invalid") (by decide)
    exact absurd hword (by decide)

/-- The records of a chain are those of the rules that are tried, where no attempt is warned of. -/
theorem records_eq (ht : p.InTime clock name) {c : RuleChain} {tried : List Rule}
    (h : c.tried clock p name = tried.map fun r => (r, r.verdict clock p name)) :
    c.records clock p name = tried.map (traceOf clock p name) := by
  have hown (r : Rule) : r.records clock p name = [] := by
    cases r with
    | pattern => exact Clock.records_of_inTime ht
    | empty | noConfig | allowedNames => rfl
  rw [records, h, List.flatMap_map, List.map_eq_flatMap]
  congr 1
  funext r
  simp [hown, record, traceOf, isPass_iff]

theorem not_saysValid_of_fails {rules : List Rule} (h : ∀ r ∈ rules, r.verdict clock p name ≠ .pass) :
    ∀ entry ∈ rules.map (traceOf clock p name), saysValid entry = false := by
  intro entry hm
  obtain ⟨r, hr, rfl⟩ := List.mem_map.1 hm
  rw [Bool.eq_false_iff, ne_eq, saysValid_traceOf]
  exact h r hr

/-- Rules that fail leave a record each, and the finding of each is that of the rule it names. -/
theorem forall₂_traceOf_verdict {rules : List Rule} (h : ∀ r ∈ rules, r.verdict clock p name ≠ .pass) :
    List.Forall₂ (fun entry v => ∃ r, ruleNamed? entry = some r ∧ v.finding? = some r.finding)
      (rules.map (traceOf clock p name)) (rules.map (·.verdict clock p name)) := by
  induction rules with
  | nil => exact .nil
  | cons r rest ih =>
    obtain ⟨hr, hrest⟩ := List.forall_mem_cons.1 h
    exact .cons ⟨r, ruleNamed?_traceOf clock p name r, finding?_verdict p name hr⟩ (ih hrest)

/-- The log of a chain tells its verdict. One record is left by each rule that applies, in ascending
priority, up to and including the first one that passes; no rule behind it is tried or logged. Only the
last record can say that the region is valid, and the region passes exactly if it does or nothing is
logged. Otherwise failures and records are paired off in order, each failure with the finding of the rule
that its record names. No attempt may last too long, for it would be warned of before the record of its
rule. -/
theorem records_tell_failures (rules : List Rule) {clock : Clock} {p : Policy} {name : String}
    (ht : p.InTime clock name) :
    let c := ofRules rules
    let log := c.records clock p name
    (∃ tried, TriedUpTo clock p name (applicable rules p name) tried ∧
      tried.Pairwise (fun a b => a.priority ≤ b.priority) ∧
      c.tried clock p name = tried.map (fun r => (r, r.verdict clock p name)) ∧
      log = tried.map (traceOf clock p name)) ∧
    log.countP saysValid ≤ 1 ∧
    (∀ entry ∈ log.dropLast, saysValid entry = false) ∧
    (c.failures clock p name = [] ↔
      log = [] ∨ ∃ entry, log.getLast? = some entry ∧ saysValid entry = true) ∧
    (c.failures clock p name ≠ [] → List.Forall₂
      (fun entry v => ∃ r, ruleNamed? entry = some r ∧ v.finding? = some r.finding)
      log (c.failures clock p name)) := by
  intro c log
  obtain ⟨tried, hup, htry⟩ := exists_triedUpTo clock p name c.rules
  have hlog : log = tried.map (traceOf clock p name) := records_eq ht htry
  rw [applying_rules_ofRules] at hup
  have hord := (applicable_ordered rules p name).sublist hup.sublist
  refine ⟨⟨tried, hup, hord, htry, hlog⟩, ?_⟩
  have hfail : c.failures clock p name =
      if ∃ r ∈ applicable rules p name, r.verdict clock p name = .pass then []
      else (applicable rules p name).map (·.verdict clock p name) := by
    rw [failures_eq, applying_rules_ofRules]
  rw [hlog]
  generalize applicable rules p name = applies at hup hfail
  cases hup with
  | all h =>
    -- No rule passes: the failures are the verdicts of all that were tried.
    have hno := not_saysValid_of_fails h
    have hnone : ¬ ∃ r ∈ tried, r.verdict clock p name = .pass := fun ⟨r, hr, hv⟩ => h r hr hv
    rw [hfail, if_neg hnone]
    refine ⟨?_, fun entry hm => hno entry (List.dropLast_subset _ hm), ?_, fun _ => ?_⟩
    · rw [List.countP_eq_zero.2 (by simpa using hno)]
      exact Nat.zero_le 1
    · rw [List.map_eq_nil_iff, List.map_eq_nil_iff, or_iff_left]
      rintro ⟨entry, hlast, hvalid⟩
      rw [hno entry (List.mem_of_getLast? hlast)] at hvalid
      cases hvalid
    · exact forall₂_traceOf_verdict h
  | @pass failing r spared h hr =>
    -- The last rule that was tried passes, which clears the failures before it.
    have hno := not_saysValid_of_fails h
    have hvalid : saysValid (traceOf clock p name r) = true := (saysValid_traceOf clock p name r).2 hr
    have hsome : ∃ s ∈ failing ++ r :: spared, s.verdict clock p name = .pass := ⟨r, by simp, hr⟩
    rw [hfail, if_pos hsome, List.map_append, List.map_singleton]
    refine ⟨?_, ?_, iff_of_true rfl (.inr ⟨_, List.getLast?_concat, hvalid⟩), fun hne => absurd rfl hne⟩
    · rw [List.countP_append, List.countP_eq_zero.2 (by simpa using hno), Nat.zero_add]
      exact List.countP_le_length
    · rw [List.dropLast_concat]
      exact hno

/-- Three records under two lists: of a rule that was given once and of one that was given twice. -/
theorem records_tell_failures_repeated :
    let p := Policy.ofLookup fun key => if key = Options.allowedNamesKey then some "Main"
      else if key = Options.allowedPatternsKey then some "^Pub" else none
    let c := ofRules [.pattern, .empty, .allowedNames, .pattern]
    p.InTime .still "Other" ∧ c.failures .still p "Other" ≠ [] ∧
      (c.records .still p "Other").length = 3 ∧
      List.Forall₂ (fun entry v => ∃ r, ruleNamed? entry = some r ∧ v.finding? = some r.finding)
        (c.records .still p "Other") (c.failures .still p "Other") := by
  intro p c
  have ht : p.InTime .still "Other" := fun _ _ => Nat.zero_le _
  have hne : c.failures .still p "Other" ≠ [] := by decide
  exact ⟨ht, hne, by decide, (records_tell_failures _ ht).2.2.2.2 hne⟩

-- An attempt that lasts too long is warned of, and its rule fails although the pattern occurs in the name.
example :
    let p := Policy.ofLookup fun key => if key = Options.allowedPatternsKey then some "^Pub" else none
    standard.records (fun _ _ => 150000000) p "Public" =
      [⟨.warn, .patterns,
          "Pattern '^Pub' exceeded its 100ms budget on 'Public' (150ms); treating as no match"⟩,
        ⟨.trace, .rules, "Rule Pattern on region 'Public': invalid"⟩] := by
  decide +kernel

end RegionNaming.RuleChain
