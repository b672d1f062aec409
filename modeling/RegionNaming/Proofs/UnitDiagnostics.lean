import RegionNaming.Diagnosis
import RegionNaming.Proofs.OptionVerdicts
import RegionNaming.Proofs.TextReport

/-! The shape of what is reported of the regions of one unit. All of them are judged by one policy, so
a name that is not blank either passes or has every finding that this policy holds against names. That
keeps findings of different kinds apart, or side by side, across the whole unit. -/

namespace RegionNaming

open Options

namespace RuleChain

variable {L : Type} {clock : Clock} (p : Policy)

/-- The findings that a policy holds against every name that fails under it. -/
def due : List Finding :=
  if p.custom then
    (if p.customNames && !p.names.isEmpty then [.invalidName] else []) ++
      if p.customPatterns && !p.patterns.isEmpty then [.invalidPattern] else []
  else [.noConfig]

theorem due_cases :
    due p = [.noConfig] ∨ due p = [] ∨ due p = [.invalidName] ∨ due p = [.invalidPattern] ∨
      due p = [.invalidName, .invalidPattern] := by
  rw [due]
  split_ifs <;> simp

/-- A name that is not blank passes, or fails with all findings that are due. -/
theorem failures_standard_of_named {name : String} (h : Text.isBlank name = false) :
    standard.failures clock p name = [] ∨ standard.failures clock p name = (due p).map (.fail · name) := by
  cases hc : p.custom with
  | false =>
    rw [failures_standard_of_not_custom p name h hc]
    split
    · exact .inl rfl
    · exact .inr (by simp [due, hc])
  | true =>
    rw [failures_standard_of_custom p name h hc]
    dsimp only
    split
    · exact .inl rfl
    · refine .inr ?_
      rw [due, if_pos hc, List.map_append]
      split_ifs <;> rfl

private theorem filterMap_toDiagnostic?_fail (location : L) {name : String}
    (h : Text.isBlank name = false) (findings : List Finding) :
    (findings.map (Verdict.fail · name)).filterMap (·.toDiagnostic? location) =
      findings.map fun finding => ⟨finding, location, name⟩ := by
  simp [List.filterMap_map, Verdict.toDiagnostic?, h]

/-- What is reported of a region: nothing, a missing name, or all findings that are due, about the
name as it stands. -/
theorem diagnostics_standard_cases (clock : Clock) (name : String) (location : L) :
    standard.diagnostics clock p name location = [] ∨
    Text.isBlank name = true ∧
      standard.diagnostics clock p name location = [⟨.empty, location, "[empty]"⟩] ∨
    Text.isBlank name = false ∧
      standard.diagnostics clock p name location =
        (due p).map fun finding => ⟨finding, location, name⟩ := by
  rw [diagnostics]
  cases hb : Text.isBlank name with
  | true =>
    rw [failures_standard_of_blank p name hb]
    split
    · exact .inl rfl
    · exact .inr (.inl ⟨rfl, rfl⟩)
  | false =>
    rcases failures_standard_of_named p hb with hf | hf
    · exact .inl (by rw [hf]; rfl)
    · exact .inr (.inr ⟨rfl, by rw [hf, filterMap_toDiagnostic?_fail location hb]⟩)

theorem mem_due_of_mem_diagnostics {name : String} {location : L} {d : Diagnostic L}
    (h : d ∈ standard.diagnostics clock p name location) (hd : d.finding ≠ .empty) : d.finding ∈ due p := by
  rcases diagnostics_standard_cases p clock name location with he | ⟨_, he⟩ | ⟨_, he⟩
  · rw [he] at h
    cases h
  · rw [he, List.mem_singleton] at h
    exact absurd (congrArg Diagnostic.finding h) hd
  · rw [he] at h
    obtain ⟨finding, hm, rfl⟩ := List.mem_map.1 h
    exact hm

/-- The place of a region is only handed on. -/
theorem diagnostics_mapLocation {M : Type} (f : L → M) (c : RuleChain) (name : String) (location : L) :
    c.diagnostics clock p name (f location) =
      (c.diagnostics clock p name location).map (·.mapLocation f) := by
  rw [diagnostics, diagnostics, List.map_filterMap]
  congr 1
  funext v
  cases v <;> rfl

end RuleChain

variable {L : Type} {clock : Clock}

/-- What one region adds to the diagnostics of its unit: what is reported of it alone, in one of six
forms, at its place. Only a missing name is replaced by a placeholder. -/
structure Adds (clock : Clock) (policy : Policy) (region : String × L)
    (block : List (Diagnostic L)) : Prop where
  alone : block = RuleChain.standard.diagnostics clock policy region.1 region.2
  form : block.map Diagnostic.id ∈
    [[], ["RR2003"], ["RR1999"], ["RR2001"], ["RR2002"], ["RR2001", "RR2002"]]
  place : ∀ d ∈ block, d.location = region.2
  missing_name : ∀ d ∈ block, d.id = "RR2003" → Text.trim region.1 = "" ∧ d.argument = "[empty]"
  given_name : ∀ d ∈ block, d.id ≠ "RR2003" → d.argument = region.1

/-- Diagnostics in which the findings of both lists come together: each `RR2001` stands right before an
`RR2002` and each `RR2002` right behind an `RR2001`, at the same place and about the same name. -/
def Paired (ds : List (Diagnostic L)) : Prop :=
  ∀ i d, ds[i]? = some d →
    (d.id = "RR2001" → ∃ e, ds[i + 1]? = some e ∧ e.id = "RR2002" ∧
      e.location = d.location ∧ e.argument = d.argument) ∧
    (d.id = "RR2002" → ∃ j e, i = j + 1 ∧ ds[j]? = some e ∧ e.id = "RR2001" ∧
      e.location = d.location ∧ e.argument = d.argument)

theorem Diagnostic.id_eq_iff (d : Diagnostic L) (finding : Finding) :
    d.id = finding.details.id ↔ d.finding = finding :=
  ⟨fun h => Finding.id_injective h, fun h => congrArg (·.details.id) h⟩

theorem Diagnostic.id_ne (d : Diagnostic L) (finding : Finding) (h : d.finding ≠ finding) :
    d.id ≠ finding.details.id :=
  mt (d.id_eq_iff finding).1 h

theorem empty_not_mem_due (p : Policy) : Finding.empty ∉ RuleChain.due p := by
  rcases RuleChain.due_cases p with h | h | h | h | h <;> simp [h]

theorem adds_diagnostics (p : Policy) (region : String × L) :
    Adds clock p region (RuleChain.standard.diagnostics clock p region.1 region.2) := by
  obtain ⟨name, location⟩ := region
  rcases RuleChain.diagnostics_standard_cases p clock name location with he | ⟨hb, he⟩ | ⟨hb, he⟩
  · constructor <;> simp [he]
  · refine ⟨rfl, ?_, ?_, ?_, ?_⟩ <;> dsimp only <;> rw [he]
    · change [Finding.empty.details.id] ∈ _
      decide
    · simp
    · simp [Text.trim_eq_empty_iff, hb]
    · exact List.forall_mem_singleton.2 fun h => absurd rfl h
  · refine ⟨rfl, ?_, ?_, ?_, ?_⟩ <;> dsimp only <;> rw [he]
    · rw [List.map_map]
      change (RuleChain.due p).map (fun finding => finding.details.id) ∈ _
      rcases RuleChain.due_cases p with h | h | h | h | h <;> rw [h] <;> decide
    · simp
    · intro d hd hid
      obtain ⟨finding, hm, rfl⟩ := List.mem_map.1 hd
      obtain rfl : finding = .empty := (Diagnostic.id_eq_iff _ .empty).1 hid
      exact absurd hm (empty_not_mem_due p)
    · simp

namespace Paired

theorem of_neither {ds : List (Diagnostic L)}
    (h : ∀ d ∈ ds, d.id ≠ "RR2001" ∧ d.id ≠ "RR2002") : Paired ds := by
  intro i d hd
  obtain ⟨hname, hpattern⟩ := h d (List.mem_of_getElem? hd)
  exact ⟨fun hid => absurd hid hname, fun hid => absurd hid hpattern⟩

theorem pair (location : L) (name : String) :
    Paired [⟨.invalidName, location, name⟩, ⟨.invalidPattern, location, name⟩] := by
  intro i d hd
  match i with
  | 0 =>
    obtain rfl := Option.some.inj hd
    exact ⟨fun _ => ⟨_, rfl, rfl, rfl, rfl⟩,
      fun hid => absurd hid (Diagnostic.id_ne _ .invalidPattern nofun)⟩
  | 1 =>
    obtain rfl := Option.some.inj hd
    exact ⟨fun hid => absurd hid (Diagnostic.id_ne _ .invalidName nofun),
      fun _ => ⟨0, _, rfl, rfl, rfl, rfl, rfl⟩⟩
  | i + 2 => cases hd

theorem append {ds es : List (Diagnostic L)} (hd : Paired ds) (he : Paired es) : Paired (ds ++ es) := by
  intro i d h
  rcases Nat.lt_or_ge i ds.length with hi | hi
  · rw [List.getElem?_append_left hi] at h
    obtain ⟨hname, hpattern⟩ := hd i d h
    constructor
    · intro hid
      obtain ⟨e, hnext, hrest⟩ := hname hid
      have hlt : i + 1 < ds.length := (List.getElem?_eq_some_iff.1 hnext).1
      exact ⟨e, by rw [List.getElem?_append_left hlt, hnext], hrest⟩
    · intro hid
      obtain ⟨j, e, rfl, hprev, hrest⟩ := hpattern hid
      exact ⟨j, e, rfl, by rw [List.getElem?_append_left (by omega), hprev], hrest⟩
  · rw [List.getElem?_append_right hi] at h
    obtain ⟨hname, hpattern⟩ := he _ d h
    constructor
    · intro hid
      obtain ⟨e, hnext, hrest⟩ := hname hid
      have hs : i + 1 - ds.length = i - ds.length + 1 := by omega
      exact ⟨e, by rw [List.getElem?_append_right (by omega), hs, hnext], hrest⟩
    · intro hid
      obtain ⟨j, e, hj, hprev, hrest⟩ := hpattern hid
      have hs : ds.length + j - ds.length = j := by omega
      exact ⟨ds.length + j, e, by omega,
        by rw [List.getElem?_append_right (by omega), hs, hprev], hrest⟩

theorem flatMap {α : Type} {f : α → List (Diagnostic L)} (h : ∀ a, Paired (f a)) (as : List α) :
    Paired (as.flatMap f) := by
  induction as with
  | nil => exact of_neither nofun
  | cons a as ih =>
    rw [List.flatMap_cons]
    exact (h a).append ih

end Paired

/-- Where both findings are due, a region adds both of them, side by side, or none. -/
theorem paired_diagnostics {p : Policy} (hp : RuleChain.due p = [.invalidName, .invalidPattern])
    (name : String) (location : L) : Paired (RuleChain.standard.diagnostics clock p name location) := by
  rcases RuleChain.diagnostics_standard_cases p clock name location with he | ⟨_, he⟩ | ⟨_, he⟩
  · rw [he]
    exact .of_neither nofun
  · rw [he]
    exact .of_neither (List.forall_mem_singleton.2
      ⟨Diagnostic.id_ne _ .invalidName nofun, Diagnostic.id_ne _ .invalidPattern nofun⟩)
  · rw [he, hp]
    exact .pair location name

/-- Findings about names that are not blank come from the one policy of the unit. -/
theorem mem_due_of_mem_diagnose {options : Lookup} {regions : List (String × L)} {d : Diagnostic L}
    (h : d ∈ diagnose clock options regions) (finding : Finding) (hf : finding ≠ .empty)
    (hd : d.id = finding.details.id) : finding ∈ RuleChain.due (Policy.ofLookup options) := by
  obtain ⟨region, _, hm⟩ := List.mem_flatMap.1 h
  rw [Diagnostic.id_eq_iff] at hd
  exact hd ▸ RuleChain.mem_due_of_mem_diagnostics _ hm (hd ▸ hf)

/-- The diagnostics of one unit, whatever its options and regions are. Each region adds its own, in one of
six forms. Findings of unconfigured names never meet those of configured lists, and once both lists
have findings anywhere in the unit, these come in pairs. Places are only handed on. -/
theorem diagnose_shape (clock : Clock) (options : Lookup) (regions : List (String × L)) :
    (∃ blocks, List.Forall₂ (Adds clock (Policy.ofLookup options)) regions blocks ∧
      diagnose clock options regions = blocks.flatten) ∧
    (∀ d ∈ diagnose clock options regions, ∀ e ∈ diagnose clock options regions,
      d.id = "RR1999" → e.id ≠ "RR2001" ∧ e.id ≠ "RR2002") ∧
    (∀ d ∈ diagnose clock options regions, ∀ e ∈ diagnose clock options regions,
      d.id = "RR2001" → e.id = "RR2002" → Paired (diagnose clock options regions)) ∧
    ∀ (M : Type) (f : L → M),
      diagnose clock options (regions.map fun (name, location) => (name, f location)) =
        (diagnose clock options regions).map (·.mapLocation f) := by
  have hcases := RuleChain.due_cases (Policy.ofLookup options)
  refine ⟨?_, ?_, ?_, ?_⟩
  · refine ⟨_, ?_, List.flatMap_def⟩
    rw [List.forall₂_map_right_iff, List.forall₂_same]
    exact fun region _ => adds_diagnostics _ region
  · intro d hd e he hid
    have hnone := mem_due_of_mem_diagnose hd .noConfig nofun hid
    constructor
    · intro heid
      have hname := mem_due_of_mem_diagnose he .invalidName nofun heid
      rcases hcases with h | h | h | h | h <;>
        simp [h] at hnone hname
    · intro heid
      have hpattern := mem_due_of_mem_diagnose he .invalidPattern nofun heid
      rcases hcases with h | h | h | h | h <;>
        simp [h] at hnone hpattern
  · intro d hd e he hid heid
    have hname := mem_due_of_mem_diagnose hd .invalidName nofun hid
    have hpattern := mem_due_of_mem_diagnose he .invalidPattern nofun heid
    have hdue : RuleChain.due (Policy.ofLookup options) = [.invalidName, .invalidPattern] := by
      rcases hcases with h | h | h | h | h <;>
        simp [h] at hname hpattern ⊢
    exact .flatMap (fun region => paired_diagnostics hdue region.1 region.2) regions
  · intro M f
    rw [diagnose, diagnose, List.flatMap_map, List.map_flatMap]
    exact congrArg (regions.flatMap ·) (funext fun region =>
      RuleChain.diagnostics_mapLocation _ f _ region.1 region.2)

/-- Two names that fail under two lists, with a nameless region and one that passes between them. -/
theorem diagnose_shape_two_lists :
    let options : Lookup := fun key => if key = allowedNamesKey then some "Main"
      else if key = allowedPatternsKey then some "^P" else if key = caseSensitiveKey then some "true"
      else if key = allowEmptyKey then some "false" else none
    let regions := [("main", 3), ("", 5), ("Public", 8), ("x", 9)]
    (diagnose .still options regions).map (fun d => (d.id, d.location, d.argument)) =
        [("RR2001", 3, "main"), ("RR2002", 3, "main"), ("RR2003", 5, "[empty]"), ("RR2001", 9, "x"),
          ("RR2002", 9, "x")] ∧
      Paired (diagnose .still options regions) := by
  intro options regions
  have hd : diagnose .still options regions =
      [⟨.invalidName, 3, "main"⟩, ⟨.invalidPattern, 3, "main"⟩, ⟨.empty, 5, "[empty]"⟩,
        ⟨.invalidName, 9, "x"⟩, ⟨.invalidPattern, 9, "x"⟩] := by decide
  refine ⟨by rw [hd]; decide, ?_⟩
  exact (diagnose_shape .still options regions).2.2.1 ⟨.invalidName, 3, "main"⟩ (by rw [hd]; decide)
    ⟨.invalidPattern, 9, "x"⟩ (by rw [hd]; decide) rfl rfl

end RegionNaming
