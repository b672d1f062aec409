import RegionNaming.Diagnosis
import RegionNaming.Proofs.Directives
import RegionNaming.Proofs.RuleChain

/-! The diagnostics of a text, segment by segment. Each segment between line feeds adds the
diagnostics of the region it opens, at the place of its directive, and nothing else is reported. -/

namespace RegionNaming

open Options Source

/-- What a numbered segment of the file at `path` adds to the diagnostics: those of the region that it
opens, at its word, and none if it opens no region. -/
structure Contributes (clock : Clock) (options : Lookup) (path : String) (segment : List Char × Nat)
    (block : List (Diagnostic Location)) : Prop where
  of_directive : ∀ indent rest, Directive "#region".toList segment.1 indent rest →
    block = RuleChain.standard.diagnostics clock (Policy.ofLookup options)
      (Text.trim (String.ofList rest)) ⟨path, segment.2, indent.length + 1⟩
  of_other : (∀ indent rest, ¬ Directive "#region".toList segment.1 indent rest) → block = []

def segmentDiagnostics (clock : Clock) (options : Lookup) (path : String) (segment : List Char × Nat) :
    List (Diagnostic Location) :=
  (Region.ofLine? segment).toList.flatMap fun r =>
    RuleChain.standard.diagnostics clock (Policy.ofLookup options) r.name (r.location path)

variable (clock : Clock) (options : Lookup) (path : String)

theorem contributes_segmentDiagnostics (segment : List Char × Nat) :
    Contributes clock options path segment (segmentDiagnostics clock options path segment) := by
  obtain ⟨line, number⟩ := segment
  constructor
  · intro indent rest hd
    have hr := (ofLine?_eq_some_iff line number _).2 ⟨indent, rest, hd, rfl⟩
    simp [segmentDiagnostics, hr, Region.location]
  · intro hno
    have hr : Region.ofLine? (line, number) = none := by
      rw [Option.eq_none_iff_forall_ne_some]
      intro r hr
      obtain ⟨indent, rest, hd, _⟩ := (ofLine?_eq_some_iff line number r).1 hr
      exact hno indent rest hd
    simp [segmentDiagnostics, hr]

/-- The diagnostics of a text are those of its segments, in order. -/
theorem diagnoseText_eq (text : String) :
    diagnoseText clock options path text =
      ((text.toList.splitOn '\n').zipIdx 1).flatMap (segmentDiagnostics clock options path) := by
  rw [diagnoseText, diagnose, locatedRegions, regions_eq, List.flatMap_map,
    List.filterMap_eq_flatMap_toList, List.flatMap_assoc]
  rfl

/-- Every diagnostic of a segment stands at its word and speaks of its name or of a missing one. -/
theorem of_mem_segmentDiagnostics {line : List Char} {number : Nat} {d : Diagnostic Location}
    (h : d ∈ segmentDiagnostics clock options path (line, number)) :
    ∃ indent rest, Directive "#region".toList line indent rest ∧
      d.location = ⟨path, number, indent.length + 1⟩ ∧
      (d.argument = Text.trim (String.ofList rest) ∨ d.argument = "[empty]") := by
  obtain ⟨r, hr, hd⟩ := List.mem_flatMap.1 h
  obtain ⟨indent, rest, hdir, rfl⟩ := (ofLine?_eq_some_iff line number r).1 (Option.mem_toList.1 hr)
  exact ⟨indent, rest, hdir, RuleChain.of_mem_diagnostics _ _ hd⟩

/-- The word of a directive starts right after its indent. -/
private theorem getElem?_indent {segment indent rest : List Char}
    (h : Directive "#region".toList segment indent rest) : segment[indent.length]? = some '#' := by
  rw [h.line_eq, List.append_assoc, List.getElem?_append_right (Nat.le_refl _), Nat.sub_self]
  rfl

/-- The diagnostics of a text follow its source: they are what its segments between line feeds
contribute, each at its own number and in order. So each of them points at the `#` of a directive and
speaks of the trimmed name behind it, or of a missing one. -/
theorem diagnoseText_faithful (text : String) :
    (∃ blocks, List.Forall₂ (Contributes clock options path) ((text.toList.splitOn '\n').zipIdx 1) blocks ∧
      diagnoseText clock options path text = blocks.flatten) ∧
    ∀ d ∈ diagnoseText clock options path text, ∃ i segment indent rest,
      (text.toList.splitOn '\n')[i]? = some segment ∧
      Directive "#region".toList segment indent rest ∧
      d.location = ⟨path, i + 1, indent.length + 1⟩ ∧ segment[indent.length]? = some '#' ∧
      (d.argument = Text.trim (String.ofList rest) ∨ d.argument = "[empty]") := by
  rw [diagnoseText_eq]
  constructor
  · refine ⟨_, ?_, List.flatMap_def⟩
    rw [List.forall₂_map_right_iff, List.forall₂_same]
    exact fun segment _ => contributes_segmentDiagnostics clock options path segment
  · intro d hd
    obtain ⟨⟨segment, number⟩, hs, hd⟩ := List.mem_flatMap.1 hd
    obtain ⟨hle, hget⟩ := List.mk_mem_zipIdx_iff_le_and_getElem?_sub.1 hs
    obtain ⟨indent, rest, hdir, hloc, harg⟩ := of_mem_segmentDiagnostics clock options path hd
    refine ⟨number - 1, segment, indent, rest, hget, hdir, ?_, getElem?_indent hdir, harg⟩
    rw [hloc, Nat.sub_add_cancel hle]

/-- A nameless region, indented and before a carriage return, is reported at its word. -/
theorem diagnoseText_faithful_nameless :
    let options : Lookup := fun key => if key = allowEmptyKey then some "false" else none
    let d : Diagnostic Location := ⟨.empty, ⟨"a.cs", 2, 2⟩, "[empty]"⟩
    d ∈ diagnoseText .still options "a.cs" "x\n\t#region\r\n" ∧ ∃ i segment indent rest,
      ("x\n\t#region\r\n".toList.splitOn '\n')[i]? = some segment ∧
      Directive "#region".toList segment indent rest ∧
      d.location = ⟨"a.cs", i + 1, indent.length + 1⟩ ∧ segment[indent.length]? = some '#' ∧
      (d.argument = Text.trim (String.ofList rest) ∨ d.argument = "[empty]") := by
  intro options d
  have hd : d ∈ diagnoseText .still options "a.cs" "x\n\t#region\r\n" := by decide
  exact ⟨hd, (diagnoseText_faithful .still options "a.cs" _).2 d hd⟩

end RegionNaming
