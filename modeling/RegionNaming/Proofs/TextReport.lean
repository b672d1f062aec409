import RegionNaming.Proofs.Diagnosis
import RegionNaming.Report

/-! What the text report of a file tells. Names stand in it as they are, yet no name holds a line feed,
so each diagnostic has one line; its numbers, its id and its argument can be read back from that line. -/

namespace RegionNaming

open Options Source

namespace Text

theorem not_mem_toString {c : Char} (hc : c.isDigit = false) (n : Nat) : c ∉ (toString n).toList := by
  rw [Nat.toString_eq_repr, Nat.toList_repr]
  intro h
  have hd : c.isDigit = true := Nat.isDigit_of_mem_toDigits (by decide) (by decide) h
  rw [hc] at hd
  cases hd

theorem eq_of_toString_eq {m n : Nat} (h : (toString m).toList = (toString n).toList) : m = n := by
  rw [Nat.toString_eq_repr, Nat.toString_eq_repr, Nat.toList_repr, Nat.toList_repr] at h
  calc m
    _ = Nat.ofDigitChars 10 (Nat.toDigits 10 m) 0 := Nat.ofDigitChars_ten_toDigits.symm
    _ = Nat.ofDigitChars 10 (Nat.toDigits 10 n) 0 := by rw [h]
    _ = n := Nat.ofDigitChars_ten_toDigits

end Text

namespace FindingDetails

variable (argument : List Char)

theorem fill_append {before : List Char} (h : '\x7b' ∉ before) (rest : List Char) :
    fill argument (before ++ rest) = before ++ fill argument rest := by
  induction before with
  | nil => rfl
  | cons c before ih =>
    obtain ⟨hc, hb⟩ := not_or.1 (mt List.mem_cons.2 h)
    rw [List.cons_append, fill, ih hb, List.cons_append]
    intro _ hbrace
    exact absurd hbrace.symm hc

theorem fill_of_no_brace {text : List Char} (h : '\x7b' ∉ text) : fill argument text = text := by
  simpa [fill] using fill_append argument h []

theorem mem_of_mem_fill {argument text : List Char} {c : Char} (h : c ∈ fill argument text) :
    c ∈ argument ∨ c ∈ text := by
  induction text using fill.induct with
  | case1 rest ih =>
    rcases List.mem_append.1 h with h | h
    · exact .inl h
    · exact (ih h).imp_right fun h => by simp [h]
  | case2 d rest hd ih =>
    rw [fill] at h
    · rcases List.mem_cons.1 h with rfl | h
      · exact .inr List.mem_cons_self
      · exact (ih h).imp_right (List.mem_cons_of_mem d)
    · exact hd
  | case3 => cases h

end FindingDetails

namespace Finding

theorem id_injective {a b : Finding} (h : a.details.id = b.details.id) : a = b := by
  revert h
  cases a <;> cases b <;> decide

/-- Only the message about a missing name has no mark; the others have one, and no other brace. -/
theorem template_parts (f : Finding) (hf : f ≠ .empty) :
    ∃ before after, f.details.template.toList = before ++ '\x7b' :: '0' :: '\x7d' :: after ∧
      '\x7b' ∉ before ∧ '\x7b' ∉ after := by
  cases f with
  | empty => exact absurd rfl hf
  | _ => exact ⟨"Region name '".toList, _, rfl, by decide, by decide⟩

/-- An argument is put into a message once and as it stands, marks in it included. -/
theorem exists_message_eq {f : Finding} (hf : f ≠ .empty) :
    ∃ before after, ∀ x, f.details.message x = before ++ x ++ after := by
  obtain ⟨before, after, ht, hb, ha⟩ := f.template_parts hf
  refine ⟨String.ofList before, String.ofList after, fun x => ?_⟩
  apply String.toList_injective
  simp only [FindingDetails.message, ht, FindingDetails.fill_append _ hb, FindingDetails.fill,
    FindingDetails.fill_of_no_brace _ ha, String.toList_append, String.toList_ofList, List.append_assoc]

/-- The argument can be read back from a message that has one. -/
theorem message_injective {f : Finding} (hf : f ≠ .empty) {x y : String}
    (h : f.details.message x = f.details.message y) : x = y := by
  obtain ⟨before, after, hm⟩ := exists_message_eq hf
  rw [hm, hm] at h
  exact (String.append_right_inj before).1 ((String.append_left_inj after).1 h)

theorem newline_not_mem_message (f : Finding) {x : String} (hx : '\n' ∉ x.toList) :
    '\n' ∉ (f.details.message x).toList := by
  have ht : '\n' ∉ f.details.template.toList := by cases f <;> decide +kernel
  rw [FindingDetails.message, String.toList_ofList]
  intro hm
  rcases FindingDetails.mem_of_mem_fill hm with h | h
  · exact hx h
  · exact ht h

end Finding

/-- What holds of the diagnostics that a text at `path` gives: they are placed there, speak of something
that stands on one line, and of the placeholder if the name is missing. -/
structure FromText (path : String) (d : Diagnostic Location) : Prop where
  path_eq : d.location.path = path
  argument_line : '\n' ∉ d.argument.toList
  argument_of_empty : d.finding = .empty → d.argument = "[empty]"

theorem newline_not_mem_segment {text segment : List Char} (h : segment ∈ text.splitOn '\n') :
    '\n' ∉ segment := by
  rw [List.splitOn_eq_splitOnP, ← Text.pieces_eq_splitOnP] at h
  intro hn
  have hs := Text.not_sep_of_mem_pieces h '\n' hn
  simp at hs

/-- No line feed gets into the name that a directive on a segment gives. -/
theorem newline_not_mem_name {word segment indent rest : List Char} (hn : '\n' ∉ segment)
    (h : Directive word segment indent rest) : '\n' ∉ (Text.trim (String.ofList rest)).toList := by
  rw [Text.toList_trim, String.toList_ofList]
  intro hm
  apply hn
  rw [h.line_eq]
  exact List.mem_append_right _ (Text.mem_of_mem_trimChars hm)

theorem fromText_of_mem {clock : Clock} {options : Lookup} {path text : String} {d : Diagnostic Location}
    (h : d ∈ diagnoseText clock options path text) : FromText path d := by
  rw [diagnoseText_eq] at h
  obtain ⟨⟨segment, number⟩, hs, hd⟩ := List.mem_flatMap.1 h
  have hseg : '\n' ∉ segment := newline_not_mem_segment (List.fst_mem_of_mem_zipIdx hs)
  obtain ⟨indent, rest, hdir, hloc, harg⟩ := of_mem_segmentDiagnostics clock options path hd
  refine ⟨by rw [hloc], ?_, ?_⟩
  · rcases harg with harg | harg
    · rw [harg]
      exact newline_not_mem_name hseg hdir
    · rw [harg]
      decide
  · obtain ⟨r, _, hr⟩ := List.mem_flatMap.1 hd
    exact RuleChain.argument_of_empty _ _ hr

namespace Report

def lineBody (d : Diagnostic Location) : List Char :=
  d.location.path.toList ++ ':' :: ((toString d.location.line).toList ++ ':' ::
    ((toString d.location.column).toList ++ ':' ::
      (' ' :: d.finding.details.severity.name.toList ++ '[' ::
        (d.id.toList ++ ']' :: (':' :: ' ' :: d.message.toList)))))

theorem toList_textLine (d : Diagnostic Location) : (textLine d).toList = lineBody d ++ ['\n'] := by
  simp [textLine, Location.render, lineBody]

theorem toList_report_text (ds : List (Diagnostic Location)) :
    (report .text ds).toList = ds.flatMap fun d => lineBody d ++ ['\n'] := by
  simp only [report, text, String.toList_join, List.flatMap_map, toList_textLine]

variable {path : String} {d e : Diagnostic Location}

theorem newline_not_mem_lineBody (hp : '\n' ∉ path.toList) (hd : FromText path d) :
    '\n' ∉ lineBody d := by
  have hn (n : Nat) : '\n' ∉ (toString n).toList := Text.not_mem_toString rfl n
  have hs : '\n' ∉ d.finding.details.severity.name.toList := by cases d.finding <;> decide
  have hi : '\n' ∉ d.finding.details.id.toList := by cases d.finding <;> decide
  have hm : '\n' ∉ d.message.toList := d.finding.newline_not_mem_message hd.argument_line
  simp only [lineBody, hd.path_eq, Diagnostic.id, List.mem_append, List.mem_cons, hp, hn, hs, hi, hm]
  decide

/-- A line at a known path is cut at the marks after its numbers, its severity and its id. -/
theorem lineBody_inj (hp : d.location.path = e.location.path) (h : lineBody d = lineBody e) :
    d.location = e.location ∧ d.finding = e.finding ∧ d.message = e.message := by
  have hcolon (n : Nat) : ':' ∉ (toString n).toList := Text.not_mem_toString rfl n
  have hsev (f : Finding) : '[' ∉ ' ' :: f.details.severity.name.toList := by cases f <;> decide
  have hid (f : Finding) : ']' ∉ f.details.id.toList := by cases f <;> decide
  rw [lineBody, lineBody, hp] at h
  obtain ⟨-, h⟩ := List.cons.inj (List.append_cancel_left h)
  obtain ⟨hline, h⟩ := Text.append_mark_inj (hcolon _) (hcolon _) h
  obtain ⟨hcolumn, h⟩ := Text.append_mark_inj (hcolon _) (hcolon _) h
  obtain ⟨-, h⟩ := Text.append_mark_inj (hsev _) (hsev _) h
  obtain ⟨hids, h⟩ := Text.append_mark_inj (hid _) (hid _) h
  refine ⟨?_, Finding.id_injective (String.toList_injective hids), ?_⟩
  · have hl : d.location.line = e.location.line := Text.eq_of_toString_eq hline
    have hc : d.location.column = e.location.column := Text.eq_of_toString_eq hcolumn
    calc d.location
      _ = ⟨d.location.path, d.location.line, d.location.column⟩ := rfl
      _ = e.location := by rw [hp, hl, hc]
  · obtain ⟨-, h⟩ := List.cons.inj h
    obtain ⟨-, h⟩ := List.cons.inj h
    exact String.toList_injective h

/-- A line tells its diagnostic. -/
theorem eq_of_lineBody_eq (hd : FromText path d) (he : FromText path e)
    (h : lineBody d = lineBody e) : d = e := by
  obtain ⟨hl, hf, hm⟩ := lineBody_inj (hd.path_eq.trans he.path_eq.symm) h
  have ha : d.argument = e.argument := by
    by_cases hempty : d.finding = .empty
    · rw [hd.argument_of_empty hempty, he.argument_of_empty (hf.symm.trans hempty)]
    · rw [Diagnostic.message, Diagnostic.message, ← hf] at hm
      exact Finding.message_injective hempty hm
  calc d
    _ = ⟨d.finding, d.location, d.argument⟩ := rfl
    _ = e := by rw [hf, hl, ha]

/-- A report tells its diagnostics, line by line. -/
theorem eq_of_report_text_eq (hp : '\n' ∉ path.toList) {ds es : List (Diagnostic Location)}
    (hd : ∀ d ∈ ds, FromText path d) (he : ∀ e ∈ es, FromText path e)
    (h : report .text ds = report .text es) : ds = es := by
  replace h := congrArg String.toList h
  rw [toList_report_text, toList_report_text] at h
  induction ds generalizing es with
  | nil =>
    cases es with
    | nil => rfl
    | cons e es => simp at h
  | cons d ds ih =>
    cases es with
    | nil => simp at h
    | cons e es =>
      obtain ⟨hd, hds⟩ := List.forall_mem_cons.1 hd
      obtain ⟨he, hes⟩ := List.forall_mem_cons.1 he
      simp only [List.flatMap_cons, List.append_assoc, List.singleton_append] at h
      obtain ⟨hline, hrest⟩ := Text.append_mark_inj (newline_not_mem_lineBody hp hd)
        (newline_not_mem_lineBody hp he) h
      rw [eq_of_lineBody_eq hd he hline, ih hds hes hrest]

end Report

/-- The text report of a file loses nothing, whatever the names in it are. Each diagnostic has one line,
ended by a line feed and without another, and two texts at one path that give the same report, under
whatever options and on whatever clocks, give the same diagnostics. -/
theorem report_text_lossless {path : String} (hp : '\n' ∉ path.toList) :
    (∀ clock options text, ∃ lines : List String,
      lines.length = (diagnoseText clock options path text).length ∧ (∀ line ∈ lines, '\n' ∉ line.toList) ∧
      report .text (diagnoseText clock options path text) = String.join (lines.map (· ++ "\n"))) ∧
    ∀ clock₁ options₁ text₁ clock₂ options₂ text₂,
      report .text (diagnoseText clock₁ options₁ path text₁) =
        report .text (diagnoseText clock₂ options₂ path text₂) →
      diagnoseText clock₁ options₁ path text₁ = diagnoseText clock₂ options₂ path text₂ := by
  constructor
  · intro clock options text
    refine ⟨(diagnoseText clock options path text).map fun d => String.ofList (Report.lineBody d),
      List.length_map _, ?_, ?_⟩
    · intro line hline
      obtain ⟨d, hd, rfl⟩ := List.mem_map.1 hline
      rw [String.toList_ofList]
      exact Report.newline_not_mem_lineBody hp (fromText_of_mem hd)
    · apply String.toList_injective
      rw [Report.toList_report_text]
      simp [String.toList_join, List.flatMap_map]
  · intro clock₁ options₁ text₁ clock₂ options₂ text₂ h
    exact Report.eq_of_report_text_eq hp (fun _ => fromText_of_mem) (fun _ => fromText_of_mem) h

/-- A name that goes on like a message and has a mark for an argument in it is told from the name that
its line imitates; a carriage return after it makes no difference. -/
theorem report_text_lossless_forged_name :
    let options : Lookup := fun key => if key = allowedNamesKey then some "A"
      else if key = caseSensitiveKey then some "true" else none
    let forged := "#region B' is not in the allowed names list\x7b0\x7d"
    report .text (diagnoseText .still options "a.cs" forged) =
        report .text (diagnoseText .still options "a.cs" (forged ++ "\r\n")) ∧
      diagnoseText .still options "a.cs" forged = diagnoseText .still options "a.cs" (forged ++ "\r\n") ∧
      report .text (diagnoseText .still options "a.cs" forged) ≠
        report .text (diagnoseText .still options "a.cs" "#region B") := by
  intro options forged
  have hp : '\n' ∉ "a.cs".toList := by decide
  have hsame : report .text (diagnoseText .still options "a.cs" forged) =
      report .text (diagnoseText .still options "a.cs" (forged ++ "\r\n")) := by decide +kernel
  refine ⟨hsame, (report_text_lossless hp).2 _ _ _ _ _ _ hsame, fun h => ?_⟩
  have hd := (report_text_lossless hp).2 _ _ _ _ _ _ h
  exact absurd hd (by decide)

end RegionNaming
