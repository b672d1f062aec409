import RegionNaming.Proofs.Text
import RegionNaming.Source.Region

/-! The grammar of directives. A line opens a region when it is blanks, the word and then nothing or a
blank; the regions of a text are those of its segments between line feeds, carriage returns and all. -/

namespace RegionNaming.Source

open Text

def WordEnd (rest : List Char) : Prop := rest = [] ∨ ∃ c cs, rest = c :: cs ∧ blank c = true

/-- A line with a word on it: blanks, the word, and a rest from which the word is set apart. -/
structure Directive (word line indent rest : List Char) : Prop where
  line_eq : line = indent ++ word ++ rest
  indent_blank : AllBlank indent
  rest_apart : WordEnd rest

def Keyword (word : List Char) : Prop := word ≠ [] ∧ ∀ c ∈ word, blank c = false

private theorem keyword_of_all {word : List Char} (h : (!word.isEmpty && word.all (!blank ·)) = true) :
    Keyword word := by
  simpa [Keyword] using h

theorem keyword_startWord : Keyword startWord := keyword_of_all (by decide)

theorem keyword_endWord : Keyword endWord := keyword_of_all (by decide)

theorem wordEnd_nil : WordEnd [] := .inl rfl

theorem wordEnd_cons_iff (c : Char) (cs : List Char) : WordEnd (c :: cs) ↔ blank c = true := by
  simp [WordEnd]

/-- A word stands alone at the front of a text exactly if a rest set apart from it follows. -/
theorem afterWord_eq_some_iff (word cs rest : List Char) :
    afterWord word cs = some rest ↔ cs = word ++ rest ∧ WordEnd rest := by
  rw [← after?_eq_some_iff, afterWord]
  cases after? word cs with
  | none => simp
  | some tail =>
    rw [Option.some.injEq]
    cases tail with
    | nil =>
      rw [Option.some.injEq]
      exact (and_iff_left_of_imp fun h => h ▸ wordEnd_nil).symm
    | cons c tail =>
      by_cases hc : blank c = true
      · simp only [if_pos hc, Option.some.injEq]
        exact (and_iff_left_of_imp fun h => h ▸ (wordEnd_cons_iff c tail).2 hc).symm
      · simp only [if_neg hc, reduceCtorEq, false_iff, not_and]
        rintro rfl
        exact fun h => hc ((wordEnd_cons_iff c tail).1 h)

/-- The indent and the rest of a directive are settled by its line: the indent is all the blanks at
the front, the rest is what follows the word. -/
theorem directive_iff {word : List Char} (hw : Keyword word) (line indent rest : List Char) :
    Directive word line indent rest ↔
      indent = line.takeWhile blank ∧ afterWord word (trimFront line) = some rest := by
  obtain ⟨hne, hnb⟩ := hw
  obtain ⟨c, cs, rfl⟩ := List.exists_cons_of_ne_nil hne
  have hc : blank c = false := hnb c List.mem_cons_self
  rw [afterWord_eq_some_iff]
  constructor
  · rintro ⟨rfl, hi, hr⟩
    rw [trimFront, List.append_assoc, List.takeWhile_append_of_pos hi,
      List.dropWhile_append_of_pos hi]
    simp [hc, hr]
  · rintro ⟨rfl, hline, hr⟩
    refine ⟨?_, fun d hd => List.mem_takeWhile_imp hd, hr⟩
    rw [List.append_assoc, ← hline, trimFront, List.takeWhile_append_dropWhile]

/-- A line reads as the start of a region exactly if it is a directive with the opening word. -/
theorem ofChars_eq_regionStart_iff (line : List Char) (name : String) (column : Nat) :
    Line.ofChars line = .regionStart name column ↔
      ∃ indent rest, Directive startWord line indent rest ∧
        name = trim (String.ofList rest) ∧ column = indent.length + 1 := by
  simp only [directive_iff keyword_startWord, Line.ofChars, trim, String.toList_ofList]
  cases afterWord startWord (trimFront line) with
  | none =>
    simp only [reduceCtorEq, and_false, false_and, exists_false, iff_false]
    split <;> simp
  | some rest =>
    simp only [Line.regionStart.injEq, Option.some.injEq]
    constructor
    · rintro ⟨rfl, rfl⟩
      exact ⟨_, rest, ⟨rfl, rfl⟩, rfl, rfl⟩
    · rintro ⟨indent, rest', ⟨rfl, rfl⟩, rfl, rfl⟩
      exact ⟨rfl, rfl⟩

/-- The region that a numbered line opens is that of its directive. -/
theorem ofLine?_eq_some_iff (line : List Char) (number : Nat) (r : Region) :
    Region.ofLine? (line, number) = some r ↔
      ∃ indent rest, Directive startWord line indent rest ∧
        r = ⟨trim (String.ofList rest), number, indent.length + 1⟩ := by
  have hr : Region.ofLine? (line, number) = some r ↔
      ∃ name column, Line.ofChars line = .regionStart name column ∧ r = ⟨name, number, column⟩ := by
    rw [Region.ofLine?]
    cases Line.ofChars line <;> simp [eq_comm]
  simp only [hr, ofChars_eq_regionStart_iff]
  constructor
  · rintro ⟨_, _, ⟨indent, rest, hd, rfl, rfl⟩, rfl⟩
    exact ⟨indent, rest, hd, rfl⟩
  · rintro ⟨indent, rest, hd, rfl⟩
    exact ⟨_, _, ⟨indent, rest, hd, rfl, rfl⟩, rfl⟩

section TrailingBlanks

variable {bs : List Char} (hbs : AllBlank bs)
include hbs

private theorem after?_append_of_blank {word : List Char} (hw : ∀ c ∈ word, blank c = false)
    (cs : List Char) : after? word (cs ++ bs) = (after? word cs).map (· ++ bs) := by
  induction word generalizing cs with
  | nil => simp [after?]
  | cons w ws ih =>
    obtain ⟨hwb, hws⟩ := List.forall_mem_cons.1 hw
    cases cs with
    | nil =>
      cases bs with
      | nil => rfl
      | cons b bs =>
        have hb : blank b = true := hbs b List.mem_cons_self
        have hne : w ≠ b := fun h => by simp [h, hb] at hwb
        simp [after?, hne]
    | cons c cs =>
      simp only [List.cons_append, after?]
      split
      · exact ih hws cs
      · rfl

private theorem afterWord_append_of_blank {word : List Char} (hw : ∀ c ∈ word, blank c = false)
    (cs : List Char) : afterWord word (cs ++ bs) = (afterWord word cs).map (· ++ bs) := by
  rw [afterWord, afterWord, after?_append_of_blank hbs hw]
  cases after? word cs with
  | none => rfl
  | some rest =>
    cases rest with
    | nil =>
      cases bs with
      | nil => rfl
      | cons b bs => simp [hbs b List.mem_cons_self]
    | cons c rest =>
      simp only [Option.map_some, List.cons_append]
      split <;> rfl

end TrailingBlanks

private theorem afterWord_nil {word : List Char} (hw : Keyword word) : afterWord word [] = none := by
  obtain ⟨w, ws, rfl⟩ := List.exists_cons_of_ne_nil hw.1
  rfl

theorem ofChars_of_blank {cs : List Char} (h : AllBlank cs) : Line.ofChars cs = .other := by
  simp [Line.ofChars, (trimFront_eq_nil_iff cs).2 h, afterWord_nil keyword_startWord,
    afterWord_nil keyword_endWord]

/-- Blanks at the end of a line do not change what it is. -/
theorem ofChars_append_of_blank (cs : List Char) {bs : List Char} (hbs : AllBlank bs) :
    Line.ofChars (cs ++ bs) = Line.ofChars cs := by
  by_cases hc : AllBlank cs
  · have hcb : AllBlank (cs ++ bs) := fun c hm => (List.mem_append.1 hm).elim (hc c) (hbs c)
    rw [ofChars_of_blank hcb, ofChars_of_blank hc]
  · simp only [Line.ofChars, trimFront_append_of_not_blank hc, takeWhile_append_of_not_blank hc,
      afterWord_append_of_blank hbs keyword_startWord.2,
      afterWord_append_of_blank hbs keyword_endWord.2, Option.isSome_map]
    cases afterWord startWord (trimFront cs) with
    | none => rfl
    | some rest => simp [trimChars_append_of_blank rest hbs]

theorem ofChars_dropReturn (cs : List Char) : Line.ofChars (dropReturn cs) = Line.ofChars cs := by
  rw [dropReturn]
  split
  case isTrue h =>
    have hr : AllBlank ['\r'] := List.forall_mem_singleton.2 rfl
    rw [← ofChars_append_of_blank cs.dropLast hr, List.dropLast_append_getLast? _ h]
  case isFalse => rfl

private theorem ofLine?_dropReturn (cs : List Char) (number : Nat) :
    Region.ofLine? (dropReturn cs, number) = Region.ofLine? (cs, number) := by
  simp only [Region.ofLine?, ofChars_dropReturn]

/-- Taking segments for lines finds the same regions: neither a carriage return that is dropped nor an
empty last segment makes a difference. -/
theorem filterMap_endLines (segments : List (List Char)) (number : Nat) :
    ((endLines segments).zipIdx number).filterMap Region.ofLine? =
      (segments.zipIdx number).filterMap Region.ofLine? := by
  induction segments generalizing number with
  | nil => rfl
  | cons s rest ih =>
    cases rest with
    | nil =>
      rw [endLines]
      split
      case isTrue h =>
        subst h
        rfl
      case isFalse => rfl
    | cons t rest =>
      rw [endLines, List.zipIdx_cons, List.zipIdx_cons, List.filterMap_cons, List.filterMap_cons,
        ofLine?_dropReturn, ih]
      exact nofun

/-- The regions of a text are those that its segments between line feeds open, numbered from one. -/
theorem regions_eq (text : String) :
    regions text = ((text.toList.splitOn '\n').zipIdx 1).filterMap Region.ofLine? := by
  rw [regions, lines, filterMap_endLines, pieces_eq_splitOnP, List.splitOn_eq_splitOnP]
  rfl

end RegionNaming.Source
