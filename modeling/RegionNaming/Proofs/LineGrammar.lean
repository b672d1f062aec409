import RegionNaming.Proofs.Directives

/-! The three readings of a line. Which of them a line has is settled by the word that stands alone on
it, and no line has both words; the parts around the word are settled as well. -/

namespace RegionNaming.Source

open Text

def Carries (word line : List Char) : Prop := ∃ indent rest, Directive word line indent rest

/-- A directive can be taken apart in one way only. -/
theorem Directive.unique {word line indent rest indent' rest' : List Char} (hw : Keyword word)
    (h : Directive word line indent rest) (h' : Directive word line indent' rest') :
    indent' = indent ∧ rest' = rest := by
  obtain ⟨hi, hr⟩ := (directive_iff hw line indent rest).1 h
  obtain ⟨hi', hr'⟩ := (directive_iff hw line indent' rest').1 h'
  exact ⟨hi'.trans hi.symm, Option.some.inj (hr'.symm.trans hr)⟩

/-- Behind its indent a directive starts with its word. -/
theorem Directive.trimFront_eq {word line indent rest : List Char} (hw : Keyword word)
    (h : Directive word line indent rest) : trimFront line = word ++ rest := by
  obtain ⟨_, hr⟩ := (directive_iff hw line indent rest).1 h
  exact ((afterWord_eq_some_iff word (trimFront line) rest).1 hr).1

/-- The two words part at their second characters, so no line has both. -/
theorem Carries.not_endWord {line : List Char} (h : Carries startWord line) : ¬ Carries endWord line := by
  obtain ⟨indent, rest, hs⟩ := h
  rintro ⟨indent', rest', he⟩
  have hsecond : (trimFront line)[1]? = some 'r' := by
    rw [hs.trimFront_eq keyword_startWord]
    rfl
  rw [he.trimFront_eq keyword_endWord] at hsecond
  cases hsecond

theorem carries_iff {word : List Char} (hw : Keyword word) (line : List Char) :
    Carries word line ↔ (afterWord word (trimFront line)).isSome = true := by
  rw [Carries, Option.isSome_iff_exists]
  constructor
  · rintro ⟨indent, rest, hd⟩
    exact ⟨rest, ((directive_iff hw line indent rest).1 hd).2⟩
  · rintro ⟨rest, hr⟩
    exact ⟨_, rest, (directive_iff hw line _ rest).2 ⟨rfl, hr⟩⟩

theorem ofChars_eq_regionEnd_iff (line : List Char) :
    Line.ofChars line = .regionEnd ↔ Carries endWord line := by
  by_cases hs : Carries startWord line
  · refine iff_of_false ?_ hs.not_endWord
    obtain ⟨indent, rest, hd⟩ := hs
    rw [(ofChars_eq_regionStart_iff line _ _).2 ⟨indent, rest, hd, rfl, rfl⟩]
    exact nofun
  · rw [carries_iff keyword_startWord, Option.not_isSome_iff_eq_none] at hs
    rw [carries_iff keyword_endWord, Line.ofChars, hs]
    simp [Option.isSome_iff_ne_none]

/-- What is left are the lines on which neither word stands alone. -/
theorem ofChars_eq_other_iff (line : List Char) :
    Line.ofChars line = .other ↔ ¬ Carries startWord line ∧ ¬ Carries endWord line := by
  rw [← ofChars_eq_regionEnd_iff]
  constructor
  · intro ho
    refine ⟨?_, by rw [ho]; exact nofun⟩
    rintro ⟨indent, rest, hd⟩
    have hs := (ofChars_eq_regionStart_iff line _ _).2 ⟨indent, rest, hd, rfl, rfl⟩
    rw [ho] at hs
    cases hs
  · rintro ⟨hs, he⟩
    cases hl : Line.ofChars line with
    | regionStart name column =>
      obtain ⟨indent, rest, hd, _⟩ := (ofChars_eq_regionStart_iff line name column).1 hl
      exact absurd ⟨indent, rest, hd⟩ hs
    | regionEnd => exact absurd hl he
    | other => rfl

/-- A line is read by its grammar, whatever characters it holds. It opens a region exactly if it is
blanks, `#region` and a rest that is empty or starts with a blank; the name is the trimmed rest and the
column counts the characters before the word. It closes one exactly if `#endregion` stands there
instead, and is no directive otherwise. No line is both, and a line that opens a region can be taken
apart in one way only. -/
theorem classify_grammar (line : String) :
    (∀ name column, Line.classify line = .regionStart name column ↔
      ∃ indent rest, Directive "#region".toList line.toList indent rest ∧
        name = trim (String.ofList rest) ∧ column = indent.length + 1) ∧
    (Line.classify line = .regionEnd ↔ Carries "#endregion".toList line.toList) ∧
    (Line.classify line = .other ↔
      ¬ Carries "#region".toList line.toList ∧ ¬ Carries "#endregion".toList line.toList) ∧
    ¬ (Carries "#region".toList line.toList ∧ Carries "#endregion".toList line.toList) ∧
    ∀ indent rest, Directive "#region".toList line.toList indent rest →
      TrimmedTo rest (trim (String.ofList rest)).toList ∧
      ∀ indent' rest', Directive "#region".toList line.toList indent' rest' →
        indent' = indent ∧ rest' = rest := by
  refine ⟨ofChars_eq_regionStart_iff line.toList, ofChars_eq_regionEnd_iff line.toList,
    ofChars_eq_other_iff line.toList, fun h => h.1.not_endWord h.2, ?_⟩
  intro indent rest hd
  constructor
  · rw [toList_trim, String.toList_ofList]
    exact trimmedTo_trimChars rest
  · exact fun indent' rest' hd' => hd.unique keyword_startWord hd'

/-- Wide blanks before the word count one column each, and a line feed behind it sets the name apart. -/
theorem classify_grammar_wide_blanks :
    let line := "\u3000\u00a0#region\n Main \r"
    Directive "#region".toList line.toList "\u3000\u00a0".toList "\n Main \r".toList ∧
      Line.classify line = .regionStart "Main" 3 ∧
      TrimmedTo "\n Main \r".toList "Main".toList ∧ ¬ Carries "#endregion".toList line.toList := by
  intro line
  obtain ⟨hstart, _, _, hboth, hparts⟩ := classify_grammar line
  have hd : Directive "#region".toList line.toList "\u3000\u00a0".toList "\n Main \r".toList :=
    ⟨by decide, (isBlank_iff "\u3000\u00a0").1 (by decide), (wordEnd_cons_iff _ _).2 rfl⟩
  have hname : trim (String.ofList "\n Main \r".toList) = "Main" := by decide
  have htrimmed := (hparts _ _ hd).1
  rw [hname] at htrimmed
  exact ⟨hd, (hstart "Main" 3).2 ⟨_, _, hd, hname.symm, rfl⟩, htrimmed,
    fun he => hboth ⟨⟨_, _, hd⟩, he⟩⟩

end RegionNaming.Source
