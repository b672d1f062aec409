import RegionNaming.Diagnosis
import RegionNaming.Proofs.Directives

/-! Texts cut and mended at their line feeds. The regions of a joined text are those of its parts, the
later ones further down, so regions stand on ascending lines and at most one on each. Blanks at the ends
of lines, carriage returns among them, change nothing. -/

namespace RegionNaming

namespace Source

open Text

def Region.down (lines : Nat) (r : Region) : Region := { r with line := r.line + lines }

/-- There is one segment more than there are line feeds. -/
theorem length_segments (cs : List Char) : (cs.splitOn '\n').length = cs.count '\n' + 1 := by
  induction cs with
  | nil => rfl
  | cons c cs ih =>
    rw [List.splitOn_cons_eq_if_modifyHead]
    by_cases hc : c = '\n'
    · simp [hc, ih]
    · simp [hc, ih]

theorem ofLine?_add (segment : List Char) (number lines : Nat) :
    Region.ofLine? (segment, number + lines) =
      (Region.ofLine? (segment, number)).map (Region.down lines) := by
  rw [Region.ofLine?, Region.ofLine?]
  cases Line.ofChars segment <;> rfl

/-- Segments whose numbers start later open the same regions further down. -/
theorem filterMap_zipIdx_add (segments : List (List Char)) (number lines : Nat) :
    (segments.zipIdx (number + lines)).filterMap Region.ofLine? =
      ((segments.zipIdx number).filterMap Region.ofLine?).map (Region.down lines) := by
  induction segments generalizing number with
  | nil => rfl
  | cons segment rest ih =>
    rw [List.zipIdx_cons, List.zipIdx_cons, List.filterMap_cons, List.filterMap_cons, ofLine?_add,
      Nat.add_right_comm, ih]
    cases Region.ofLine? (segment, number) <;> rfl

/-- The regions of two texts joined by a line feed. -/
theorem regions_append (a b : String) :
    regions (a ++ "\n" ++ b) =
      regions a ++ (regions b).map (Region.down (a.toList.count '\n' + 1)) := by
  have hsegments : (a ++ "\n" ++ b).toList.splitOn '\n' =
      a.toList.splitOn '\n' ++ b.toList.splitOn '\n' := by
    simp only [String.toList_append, List.append_assoc]
    exact List.splitOn_append_cons_self a.toList b.toList
  rw [regions_eq, hsegments, List.zipIdx_append, List.filterMap_append, length_segments,
    filterMap_zipIdx_add, ← regions_eq, ← regions_eq]

theorem line_of_ofLine? {segment : List Char × Nat} {r : Region}
    (h : Region.ofLine? segment = some r) : r.line = segment.2 := by
  obtain ⟨indent, rest, _, rfl⟩ := (ofLine?_eq_some_iff segment.1 segment.2 r).1 h
  rfl

theorem regions_ascend (text : String) : (regions text).Pairwise fun r s => r.line < s.line := by
  have hnumbers : ((text.toList.splitOn '\n').zipIdx 1).Pairwise fun s t => s.2 < t.2 := by
    apply List.Pairwise.of_map Prod.snd fun _ _ h => h
    rw [List.zipIdx_map_snd]
    exact List.pairwise_lt_range'
  rw [regions_eq, List.pairwise_filterMap]
  apply hnumbers.imp
  intro s t hst r hr r' hr'
  rw [line_of_ofLine? hr, line_of_ofLine? hr']
  exact hst

theorem line_of_mem_regions {text : String} {r : Region} (h : r ∈ regions text) :
    1 ≤ r.line ∧ r.line ≤ text.toList.count '\n' + 1 := by
  rw [regions_eq] at h
  obtain ⟨segment, hs, hr⟩ := List.mem_filterMap.1 h
  have hle := List.le_snd_of_mem_zipIdx hs
  have hlt := List.snd_lt_of_mem_zipIdx hs
  rw [length_segments] at hlt
  rw [line_of_ofLine? hr]
  omega

/-- On each line at most one region opens. -/
theorem countP_line_le_one (text : String) (number : Nat) :
    (regions text).countP (·.line == number) ≤ 1 := by
  have hnodup : ((regions text).map Region.line).Nodup :=
    List.pairwise_map.2 ((regions_ascend text).imp Nat.ne_of_lt)
  have hcount := List.nodup_iff_count.1 hnodup number
  rwa [List.count, List.countP_map] at hcount

/-- A text of one line opens the region of its directive, if it is one. -/
theorem mem_regions_of_one_line {line : String} (h : '\n' ∉ line.toList) (r : Region) :
    r ∈ regions line ↔ ∃ indent rest, Directive startWord line.toList indent rest ∧
      r = ⟨trim (String.ofList rest), 1, indent.length + 1⟩ := by
  rw [← ofLine?_eq_some_iff, regions_eq, List.splitOn_eq_singleton h, List.zipIdx_singleton,
    List.mem_filterMap]
  constructor
  · rintro ⟨segment, hs, hr⟩
    obtain rfl := List.mem_singleton.1 hs
    exact hr
  · exact fun hr => ⟨_, List.mem_singleton_self _, hr⟩

/-- Texts are scanned line by line. A text of one line has the region of its directive, and the regions
of two texts joined by a line feed are those of the first and then those of the second, with their names
and columns, as many lines further down as the first text has. So regions stand on ascending lines of a
text, and at most one on each. -/
theorem regions_compositional :
    (∀ line : String, '\n' ∉ line.toList → ∀ r, r ∈ regions line ↔
      ∃ indent rest, Directive "#region".toList line.toList indent rest ∧
        r = ⟨trim (String.ofList rest), 1, indent.length + 1⟩) ∧
    (∀ a b : String, regions (a ++ "\n" ++ b) =
      regions a ++ (regions b).map fun r => { r with line := r.line + (a.toList.count '\n' + 1) }) ∧
    ∀ text : String,
      (regions text).Pairwise (fun r s => r.line < s.line) ∧
      (∀ r ∈ regions text, 1 ≤ r.line ∧ r.line ≤ text.toList.count '\n' + 1) ∧
      ∀ number, (regions text).countP (·.line == number) ≤ 1 := by
  refine ⟨fun line h => mem_regions_of_one_line h, regions_append, ?_⟩
  intro text
  exact ⟨regions_ascend text, fun r hr => line_of_mem_regions hr, countP_line_le_one text⟩

/-- One line that ends in a carriage return, joined to a text that starts with an empty line. -/
theorem regions_compositional_return :
    let text := "#region A\r" ++ "\n" ++ "\n  #region B\n"
    let r : Region := ⟨"B", 3, 3⟩
    '\n' ∉ "#region A\r".toList ∧ (⟨"A", 1, 1⟩ : Region) ∈ regions "#region A\r" ∧
      regions text = [⟨"A", 1, 1⟩, r] ∧ r ∈ regions text ∧
      1 ≤ r.line ∧ r.line ≤ text.toList.count '\n' + 1 := by
  intro text r
  obtain ⟨hline, hjoin, hnumbers⟩ := regions_compositional
  have hone : '\n' ∉ "#region A\r".toList := by decide
  have hdirective : Directive "#region".toList "#region A\r".toList [] " A\r".toList :=
    ⟨rfl, List.forall_mem_nil _, (wordEnd_cons_iff _ _).2 rfl⟩
  have hname : trim (String.ofList " A\r".toList) = "A" := by decide
  have hfirst := (hline "#region A\r" hone ⟨"A", 1, 1⟩).2 ⟨_, _, hdirective, by rw [hname]; rfl⟩
  have hjoined : regions text = [⟨"A", 1, 1⟩, r] := by
    have ha : regions "#region A\r" = [⟨"A", 1, 1⟩] := by decide
    have hb : regions "\n  #region B\n" = [⟨"B", 2, 3⟩] := by decide
    rw [hjoin, ha, hb]
    decide
  have hmem : r ∈ regions text := by simp [hjoined]
  exact ⟨hone, hfirst, hjoined, hmem, (hnumbers text).2.1 r hmem⟩

structure Filler (pad : List Char) : Prop where
  all_blank : AllBlank pad
  one_line : '\n' ∉ pad

/-- A text with blanks put in before some of its line feeds and at its end. -/
inductive PaddedTo : List Char → List Char → Prop where
  | ending {pad : List Char} (h : Filler pad) : PaddedTo [] pad
  | keep (c : Char) {cs ds : List Char} (h : PaddedTo cs ds) : PaddedTo (c :: cs) (c :: ds)
  | lineFeed {pad cs ds : List Char} (h : Filler pad) (hcs : PaddedTo cs ds) :
      PaddedTo ('\n' :: cs) (pad ++ '\n' :: ds)

/-- A run of characters that stays as it is. -/
theorem PaddedTo.keepAll (run : List Char) {cs ds : List Char} (h : PaddedTo cs ds) :
    PaddedTo (run ++ cs) (run ++ ds) := by
  induction run with
  | nil => exact h
  | cons c run ih => exact .keep c ih

def Trails (segment padded : List Char) : Prop := ∃ pad, AllBlank pad ∧ padded = segment ++ pad

theorem trails_self (segment : List Char) : Trails segment segment :=
  ⟨[], List.forall_mem_nil _, (List.append_nil segment).symm⟩

private theorem forall₂_modifyHead (c : Char) {segments padded : List (List Char)}
    (h : List.Forall₂ Trails segments padded) :
    List.Forall₂ Trails (segments.modifyHead (c :: ·)) (padded.modifyHead (c :: ·)) := by
  cases h with
  | nil => exact .nil
  | cons hs hrest =>
    obtain ⟨pad, hp, rfl⟩ := hs
    exact .cons ⟨pad, hp, rfl⟩ hrest

/-- Segment by segment, a padded text has blanks behind. -/
theorem PaddedTo.segments {cs ds : List Char} (h : PaddedTo cs ds) :
    List.Forall₂ Trails (cs.splitOn '\n') (ds.splitOn '\n') := by
  induction h with
  | @ending pad hp =>
    rw [List.splitOn_nil, List.splitOn_eq_singleton hp.one_line]
    exact .cons ⟨pad, hp.all_blank, rfl⟩ .nil
  | keep c h ih =>
    rw [List.splitOn_cons_eq_if_modifyHead, List.splitOn_cons_eq_if_modifyHead]
    split
    case isTrue => exact .cons (trails_self []) ih
    -- any other character goes to the front of both first segments
    case isFalse => exact forall₂_modifyHead c ih
  | @lineFeed pad cs ds hp h ih =>
    -- the blanks fall to the segment that the line feed ends, here an empty one
    rw [List.splitOn_append_cons_self, List.splitOn_eq_singleton hp.one_line,
      List.splitOn_cons_eq_if_modifyHead]
    exact .cons ⟨pad, hp.all_blank, rfl⟩ ih

/-- Segments with blanks behind them open the same regions. -/
theorem filterMap_of_trails {segments padded : List (List Char)}
    (h : List.Forall₂ Trails segments padded) (number : Nat) :
    (padded.zipIdx number).filterMap Region.ofLine? =
      (segments.zipIdx number).filterMap Region.ofLine? := by
  induction h generalizing number with
  | nil => rfl
  | cons hs _ ih =>
    obtain ⟨pad, hp, rfl⟩ := hs
    simp only [List.zipIdx_cons, List.filterMap_cons, ih, Region.ofLine?, ofChars_append_of_blank _ hp]

theorem regions_of_paddedTo {text padded : String} (h : PaddedTo text.toList padded.toList) :
    regions padded = regions text := by
  rw [regions_eq, regions_eq]
  exact filterMap_of_trails h.segments 1

/-- A text with a carriage return put in before each line feed, whatever stood there. -/
def withReturns (text : String) : String :=
  String.ofList (text.toList.flatMap fun c => if c = '\n' then ['\r', '\n'] else [c])

theorem paddedTo_withReturns (text : String) : PaddedTo text.toList (withReturns text).toList := by
  rw [withReturns, String.toList_ofList]
  induction text.toList with
  | nil => exact .ending ⟨List.forall_mem_nil _, List.not_mem_nil⟩
  | cons c cs ih =>
    rw [List.flatMap_cons]
    split
    case isTrue hc =>
      subst hc
      exact .lineFeed ⟨List.forall_mem_singleton.2 rfl, by decide⟩ ih
    case isFalse => exact .keep c ih

end Source

open Options Source

/-- Line ends are not seen. Blanks put in before line feeds and at the end of a text, none of them a
line feed, leave its diagnostics as they are; so do carriage returns before all its line feeds, those
that have one included. -/
theorem diagnoseText_line_ends (clock : Clock) (options : Lookup) (path text : String) :
    (∀ padded : String, PaddedTo text.toList padded.toList →
      diagnoseText clock options path padded = diagnoseText clock options path text) ∧
    diagnoseText clock options path (withReturns text) = diagnoseText clock options path text := by
  have hpadded (padded : String) (h : PaddedTo text.toList padded.toList) :
      diagnoseText clock options path padded = diagnoseText clock options path text := by
    simp only [diagnoseText, locatedRegions, regions_of_paddedTo h]
  exact ⟨hpadded, hpadded _ (paddedTo_withReturns text)⟩

/-- Blanks behind a nameless region that has a carriage return, and a wide blank at the end. -/
theorem diagnoseText_line_ends_nameless :
    let options := (Store.ofList [(allowEmptyKey, "false"), (allowedNamesKey, "y"),
      (caseSensitiveKey, "true")]).get?
    let text := "#region\r\n#regio\n #region x"
    let padded := "#region\r\t\n#regio\n #region x\u3000\r"
    PaddedTo text.toList padded.toList ∧
      diagnoseText .still options "a.cs" text =
        [⟨.empty, ⟨"a.cs", 1, 1⟩, "[empty]"⟩, ⟨.invalidName, ⟨"a.cs", 3, 2⟩, "x"⟩] ∧
      diagnoseText .still options "a.cs" padded = diagnoseText .still options "a.cs" text := by
  intro options text padded
  have hend : PaddedTo "".toList "\u3000\r".toList :=
    .ending ⟨(Text.isBlank_iff "\u3000\r").1 (by decide), by decide⟩
  have hfirst : PaddedTo "\n#regio\n #region x".toList "\t\n#regio\n #region x\u3000\r".toList :=
    .lineFeed ⟨(Text.isBlank_iff "\t").1 rfl, by decide⟩ (hend.keepAll "#regio\n #region x".toList)
  have hpad : PaddedTo text.toList padded.toList := by
    have htext : text.toList = "#region\r".toList ++ "\n#regio\n #region x".toList := by decide
    have hpadded : padded.toList =
        "#region\r".toList ++ "\t\n#regio\n #region x\u3000\r".toList := by decide
    rw [htext, hpadded]
    exact hfirst.keepAll _
  exact ⟨hpad, by decide, (diagnoseText_line_ends .still options "a.cs" text).1 padded hpad⟩

end RegionNaming
