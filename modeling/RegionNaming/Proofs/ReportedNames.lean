import RegionNaming.Proofs.Assignments
import RegionNaming.Proofs.Diagnosis
import RegionNaming.Proofs.ListExtension
import RegionNaming.Proofs.UnitDiagnostics

/-! Reported names fed back. A name that is reported is trimmed and not blank, so an assignment writes it
as it stands; unless it holds a delimiter it is then the one item of the list, and every region of that
name passes. -/

namespace RegionNaming

open Options Source

/-- The name of a region is trimmed by the time it is judged. -/
theorem trim_name_of_mem_regions {r : Region} {text : String} (h : r ∈ regions text) :
    Text.trim r.name = r.name := by
  rw [regions_eq] at h
  obtain ⟨⟨line, number⟩, _, hr⟩ := List.mem_filterMap.1 h
  obtain ⟨indent, rest, _, rfl⟩ := (ofLine?_eq_some_iff line number r).1 hr
  exact Text.trim_trim _

/-- A finding about a name that is given speaks of the trimmed name, which is not blank. -/
theorem argument_of_mem_diagnoseText {clock : Clock} {options : Lookup} {path text : String}
    {d : Diagnostic Location} (h : d ∈ diagnoseText clock options path text) (hd : d.finding ≠ .empty) :
    Text.trim d.argument = d.argument ∧ Text.isBlank d.argument = false := by
  rw [diagnoseText, diagnose, locatedRegions, List.flatMap_map] at h
  obtain ⟨r, hr, hm⟩ := List.mem_flatMap.1 h
  change d ∈ RuleChain.standard.diagnostics clock (Policy.ofLookup options) r.name (r.location path) at hm
  rcases RuleChain.diagnostics_standard_cases (Policy.ofLookup options) clock r.name (r.location path) with
    he | ⟨_, he⟩ | ⟨hb, he⟩
  · rw [he] at hm
    cases hm
  · rw [he, List.mem_singleton] at hm
    exact absurd (congrArg Diagnostic.finding hm) hd
  · rw [he] at hm
    obtain ⟨finding, _, rfl⟩ := List.mem_map.1 hm
    exact ⟨trim_name_of_mem_regions hr, hb⟩

/-- A trimmed value is written as it stands, equals signs and all. -/
theorem writes_allowedNames {value : String} (h : Text.trim value = value) :
    Writes ("allowed_region_name=" ++ value) allowedNamesKey value := by
  refine ⟨"allowed_region_name", value, ⟨rfl, by decide, by decide⟩, by decide, h.symm⟩

theorem passes_of_listed {clock : Clock} {lookup : Lookup} {name : String}
    (h : name ∈ listed lookup allowedNamesKey) (hb : Text.isBlank name = false) :
    RuleChain.standard.failures clock (Policy.ofLookup lookup) name = [] := by
  have hu := (usable_ofLookup_iff lookup).2 (.inl (List.ne_nil_of_mem h))
  exact (passes_iff_of_usable hu hb).2 (.inl ⟨name, h, rfl⟩)

/-- Where a name passes, nothing is reported on the lines whose directive has it. -/
theorem line_ne_of_passes {clock : Clock} {options : Lookup} {path text : String} {i : Nat}
    {segment indent rest : List Char} (hs : (text.toList.splitOn '\n')[i]? = some segment)
    (hd : Directive "#region".toList segment indent rest)
    (hp : RuleChain.standard.failures clock (Policy.ofLookup options)
      (Text.trim (String.ofList rest)) = []) :
    ∀ d ∈ diagnoseText clock options path text, d.location.line ≠ i + 1 := by
  intro d hm hline
  rw [diagnoseText_eq] at hm
  obtain ⟨⟨line, number⟩, hl, hm⟩ := List.mem_flatMap.1 hm
  obtain ⟨_, _, _, hlocation, _⟩ := of_mem_segmentDiagnostics clock options path hm
  rw [hlocation] at hline
  obtain rfl : number = i + 1 := hline
  obtain ⟨_, hget⟩ := List.mk_mem_zipIdx_iff_le_and_getElem?_sub.1 hl
  obtain rfl : segment = line := Option.some.inj (hs.symm.trans hget)
  have hblock := (contributes_segmentDiagnostics clock options path (segment, i + 1)).of_directive
    indent rest hd
  rw [hblock, RuleChain.diagnostics, hp] at hm
  cases hm

/-- A name that is reported, unless it holds a delimiter, can be assigned as the list of allowed names;
after that nothing is reported of any region that has it. -/
theorem assign_argument_clears {clock : Clock} (s : Store) (path text : String)
    {d : Diagnostic Location} (hd : d ∈ diagnoseText clock s.get? path text)
    (hid : d.id = "RR1999" ∨ d.id = "RR2001" ∨ d.id = "RR2002")
    (hplain : ',' ∉ d.argument.toList ∧ ';' ∉ d.argument.toList) :
    ∃ t, s.assign ("allowed_region_name=" ++ d.argument) = .ok t ∧
      ∀ i segment indent rest, (text.toList.splitOn '\n')[i]? = some segment →
        Directive "#region".toList segment indent rest →
        Text.trim (String.ofList rest) = d.argument →
        ∀ clock', ∀ e ∈ diagnoseText clock' t.get? path text, e.location.line ≠ i + 1 := by
  have hnamed : d.finding ≠ .empty := by
    intro he
    have hempty : d.id = "RR2003" := (Diagnostic.id_eq_iff d .empty).2 he
    rw [hempty] at hid
    revert hid
    decide
  obtain ⟨htrim, hblank⟩ := argument_of_mem_diagnoseText hd hnamed
  have hdelimiter := (not_delimiter_iff d.argument.toList).2 hplain
  refine ⟨_, assign_of_writes (writes_allowedNames htrim) s, ?_⟩
  intro i segment indent rest hs hdir hname clock'
  have hget : (s.put allowedNamesKey d.argument).get? allowedNamesKey = some d.argument := by
    rw [Store.get?_put, if_pos rfl]
  have hlisted : d.argument ∈ listed (s.put allowedNamesKey d.argument).get? allowedNamesKey := by
    rw [(listed_of_not_blank hget hblank).2, items_of_not_delimiter hdelimiter, htrim, if_neg]
    · exact List.mem_singleton_self _
    · rw [← htrim, Text.trim_eq_empty_iff, hblank]
      exact Bool.false_ne_true
  apply line_ne_of_passes hs hdir
  rw [hname]
  exact passes_of_listed hlisted hblank

/-- A name with an equals sign, brackets and quotation marks, reported under two lists where letter case
counts. -/
theorem assign_argument_clears_quoted :
    let s := Store.ofList [(allowedNamesKey, "Main"), (allowedPatternsKey, "^P"), (caseSensitiveKey, "true")]
    let text := "#region Main\n  #region x = [\"y\"] \r\n"
    let d : Diagnostic Location := ⟨.invalidPattern, ⟨"a.cs", 2, 3⟩, "x = [\"y\"]"⟩
    d ∈ diagnoseText .still s.get? "a.cs" text ∧
      ∃ t, s.assign "allowed_region_name=x = [\"y\"]" = .ok t ∧
        ∀ e ∈ diagnoseText .still t.get? "a.cs" text, e.location.line ≠ 2 := by
  intro s text d
  have hd : d ∈ diagnoseText .still s.get? "a.cs" text := by decide
  obtain ⟨t, ht, hclear⟩ := assign_argument_clears s "a.cs" text hd (.inr (.inr rfl)) (by decide)
  have hs : (text.toList.splitOn '\n')[1]? = some "  #region x = [\"y\"] \r".toList := by decide
  have hdir : Directive "#region".toList "  #region x = [\"y\"] \r".toList "  ".toList
      " x = [\"y\"] \r".toList := ⟨rfl, (Text.isBlank_iff "  ").1 rfl, (wordEnd_cons_iff _ _).2 rfl⟩
  exact ⟨hd, t, ht, hclear 1 _ _ _ hs hdir (by decide) .still⟩

end RegionNaming
