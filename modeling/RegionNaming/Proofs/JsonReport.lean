import Mathlib.Data.List.Forall2
import RegionNaming.Proofs.JsonReader
import RegionNaming.Report

/-! What the JSON report of some diagnostics tells. Every string in it is escaped and every token set
apart, so a JSON reader gets all entries back; printed line by line they are the text report. -/

namespace RegionNaming

open Source

namespace Report

section Strings

theorem hexValue?_hexDigit : ∀ n < 16, Json.hexValue? (hexDigit n) = some n := by decide

theorem codeUnit?_hexDigits {n : Nat} (h : n < 0x20) (rest : List Char) :
    Json.codeUnit? ('0' :: '0' :: hexDigit (n / 16) :: hexDigit (n % 16) :: rest) = some (n, rest) := by
  have hzero : Json.hexValue? '0' = some 0 := rfl
  have hhigh := hexValue?_hexDigit (n / 16) (by omega)
  have hlow := hexValue?_hexDigit (n % 16) (by omega)
  have hsum : ((0 * 16 + 0) * 16 + n / 16) * 16 + n % 16 = n := by omega
  simp only [Json.codeUnit?, hzero, hhigh, hlow, Option.bind_eq_bind, Option.bind_some, hsum]

/-- Reading undoes the escape of a character. -/
theorem char?_escapeChar (c : Char) (rest : List Char) :
    Json.char? (escapeChar c ++ rest) = some (c, rest) := by
  rw [escapeChar]
  split_ifs with h1 h2 h3 h4 h5 h6 h7 h8
  · subst h1; rfl
  · subst h2; rfl
  · subst h3; rfl
  · subst h4; rfl
  · subst h5; rfl
  · subst h6; rfl
  · subst h7; rfl
  · have hu : Json.unitChar? c.toNat rest = some (c, rest) := by
      unfold Json.unitChar?
      rw [if_pos (by simp; omega), Char.ofNat_toNat]
    simp [Json.char?, codeUnit?_hexDigits h8, hu]
  · simp [Json.char?, h1, h2, h8]

theorem escapeChar_ne_quote (c : Char) : ∃ d ds, escapeChar c = d :: ds ∧ d ≠ '"' := by
  rw [escapeChar]
  split_ifs with h1
  case neg => exact ⟨c, [], rfl, h1⟩
  all_goals exact ⟨_, _, rfl, by decide⟩

theorem chars?_escaped (s rest : List Char) {fuel : Nat} (h : s.length < fuel) :
    Json.chars? fuel (s.flatMap escapeChar ++ '"' :: rest) = some (s, rest) := by
  induction s generalizing fuel with
  | nil =>
    obtain ⟨fuel, rfl⟩ := Nat.exists_eq_add_of_lt h
    rfl
  | cons c s ih =>
    obtain ⟨fuel, rfl⟩ : ∃ k, fuel = k + 1 := ⟨fuel - 1, by omega⟩
    obtain ⟨d, ds, hd, hne⟩ := escapeChar_ne_quote c
    rw [List.flatMap_cons, List.append_assoc, Json.chars?, char?_escapeChar]
    · simp [ih (Nat.lt_of_succ_lt_succ h)]
    · intro tail heq
      rw [hd, List.cons_append] at heq
      exact hne (List.cons.inj heq).1

theorem length_le_length_escaped (s : List Char) : s.length ≤ (s.flatMap escapeChar).length := by
  induction s with
  | nil => rfl
  | cons c s ih =>
    obtain ⟨d, ds, hd, _⟩ := escapeChar_ne_quote c
    rw [List.flatMap_cons, List.length_append, List.length_cons, hd, List.length_cons]
    omega

/-- Reading undoes quotation. -/
theorem string?_escaped (s : String) (rest : List Char) :
    Json.string? (s.toList.flatMap escapeChar ++ '"' :: rest) = some (s, rest) := by
  have hl := length_le_length_escaped s.toList
  rw [Json.string?, chars?_escaped]
  · simp
  · simp only [List.length_append, List.length_cons]
    omega

theorem toList_quote (s : String) : (quote s).toList = '"' :: (s.toList.flatMap escapeChar ++ ['"']) := by
  simp [quote]

theorem readAs_quote (s : String) : Json.ReadAs 1 (quote s).toList (.string s) := by
  intro fuel c rest hf _
  obtain ⟨fuel, rfl⟩ := Nat.exists_eq_add_of_le' hf
  rw [toList_quote, List.cons_append, List.append_assoc, List.singleton_append]
  exact Json.value?_string (string?_escaped s (c :: rest))

end Strings

section Fields

theorem fieldLine_append (f : String × String) (tail : List Char) :
    (fieldLine f).toList ++ tail = ' ' :: ' ' :: ' ' :: ' ' :: '"' ::
      (f.1.toList.flatMap escapeChar ++ '"' :: ':' :: ' ' :: (f.2.toList ++ tail)) := by
  simp [fieldLine, toList_quote]

variable {n fuel : Nat} {f : String × String} {v : Json.Value}

private theorem value?_after_colon (h : Json.ReadAs n f.2.toList v) (hf : n ≤ fuel) {c : Char}
    (hc : c = ',' ∨ c = '\n') (rest : List Char) :
    Json.value? fuel (' ' :: (f.2.toList ++ c :: rest)) = some (v, c :: rest) := by
  rw [← Json.value?_skip, Json.skip_of_blank rfl, Json.value?_skip]
  exact h fuel c rest hf hc

theorem fields?_fieldLine_more (h : Json.ReadAs n f.2.toList v) (hf : n ≤ fuel) (rest : List Char) :
    Json.fields? (fuel + 1) ((fieldLine f).toList ++ ',' :: rest) =
      (Json.fields? fuel rest).map fun (fs, rest) => ((f.1, v) :: fs, rest) := by
  rw [fieldLine_append, ← Json.fields?_skip]
  exact Json.fields?_more (string?_escaped f.1 _) (value?_after_colon h hf (.inl rfl) rest)

theorem fields?_fieldLine_last (h : Json.ReadAs n f.2.toList v) (hf : n ≤ fuel) (rest : List Char) :
    Json.fields? (fuel + 1) ((fieldLine f).toList ++ '\n' :: ' ' :: ' ' :: '\x7d' :: rest) =
      some ([(f.1, v)], rest) := by
  rw [fieldLine_append, ← Json.fields?_skip]
  exact Json.fields?_last (string?_escaped f.1 _) (value?_after_colon h hf (.inr rfl) _) rfl

/-- Fields on lines of their own, with a comma after each but the last, up to the brace that closes the
object. -/
theorem fields?_lines {fields : List (String × String)} {values : List (String × Json.Value)}
    (h : List.Forall₂ (fun f v => f.1 = v.1 ∧ Json.ReadAs n f.2.toList v.2) fields values)
    (hne : fields ≠ []) (hf : n + fields.length ≤ fuel) (rest : List Char) :
    Json.fields? fuel ((String.intercalate ",\n" (fields.map fieldLine)).toList ++
      '\n' :: ' ' :: ' ' :: '\x7d' :: rest) = some (values, rest) := by
  induction h generalizing fuel with
  | nil => exact absurd rfl hne
  | @cons f v fields values hv hrest ih =>
    obtain ⟨key, v⟩ := v
    obtain ⟨rfl, hv⟩ := hv
    rw [List.length_cons] at hf
    obtain ⟨fuel, rfl⟩ : ∃ k, fuel = k + 1 := ⟨fuel - 1, by omega⟩
    cases hrest with
    | nil =>
      rw [List.map_singleton, String.intercalate_singleton]
      exact fields?_fieldLine_last hv (by omega) rest
    | @cons g w fields values hw hrest =>
      have hl : n + (g :: fields).length ≤ fuel := by omega
      have hsep : ",\n".toList = [',', '\n'] := rfl
      rw [List.map_cons, List.map_cons, String.intercalate_cons_cons, ← List.map_cons]
      simp only [String.toList_append, hsep, List.append_assoc, List.cons_append, List.nil_append]
      rw [fields?_fieldLine_more hv (by omega), ← Json.fields?_skip, Json.skip_of_blank rfl,
        Json.fields?_skip, ih (List.cons_ne_nil g fields) hl]
      rfl

end Fields

section Entries

def Entry.values (e : Entry) : List (String × Json.Value) := [
  ("path", .string e.path),
  ("line", .number e.line 0),
  ("column", .number e.column 0),
  ("id", .string e.id),
  ("severity", .string e.severity),
  ("title", .string e.title),
  ("message", .string e.message)
]

theorem forall₂_readAs_fields (e : Entry) :
    List.Forall₂ (fun f v => f.1 = v.1 ∧ Json.ReadAs 1 f.2.toList v.2) e.fields e.values :=
  .cons ⟨rfl, readAs_quote e.path⟩ <|
  .cons ⟨rfl, Json.readAs_toString e.line⟩ <|
  .cons ⟨rfl, Json.readAs_toString e.column⟩ <|
  .cons ⟨rfl, readAs_quote e.id⟩ <|
  .cons ⟨rfl, readAs_quote e.severity⟩ <|
  .cons ⟨rfl, readAs_quote e.title⟩ <|
  .cons ⟨rfl, readAs_quote e.message⟩ .nil

theorem readAs_json (e : Entry) : Json.ReadAs 9 e.json.toList (.object e.values) := by
  intro fuel c rest hf _
  obtain ⟨fuel, rfl⟩ : ∃ k, fuel = k + 1 := ⟨fuel - 1, by omega⟩
  have hlen : 1 + e.fields.length ≤ fuel := by
    have h : e.fields.length = 7 := rfl
    omega
  have hopen : "  \x7b\n".toList = [' ', ' ', '\x7b', '\n'] := rfl
  have hclose : "\n  \x7d".toList = ['\n', ' ', ' ', '\x7d'] := rfl
  simp only [Entry.json, String.toList_append, hopen, hclose, List.append_assoc, List.cons_append,
    List.nil_append]
  rw [← Json.value?_skip]
  refine Json.value?_object ?_
  rw [← Json.fields?_skip, Json.skip_of_blank rfl, Json.fields?_skip]
  exact fields?_lines (forall₂_readAs_fields e) (List.cons_ne_nil _ _) hlen _

theorem length_json (e : Entry) : 8 ≤ e.json.toList.length := by
  simp [Entry.json]

def textAt? (fields : List (String × Json.Value)) (key : String) : Option String :=
  match fields.lookup key with
  | some (.string s) => some s
  | _ => none

def numberAt? (fields : List (String × Json.Value)) (key : String) : Option Nat :=
  match fields.lookup key with
  | some (.number (.ofNat n) 0) => some n
  | _ => none

def Entry.ofValue? : Json.Value → Option Entry
  | .object fields => do
    let path ← textAt? fields "path"
    let line ← numberAt? fields "line"
    let column ← numberAt? fields "column"
    let id ← textAt? fields "id"
    let severity ← textAt? fields "severity"
    let title ← textAt? fields "title"
    let message ← textAt? fields "message"
    some { path, line, column, id, severity, title, message }
  | _ => none

theorem ofValue?_values (e : Entry) : Entry.ofValue? (.object e.values) = some e := rfl

end Entries

section Arrays

def array (entries : List Entry) : String :=
  match entries with
  | [] => "[]"
  | entries => "[\n" ++ String.intercalate ",\n" (entries.map Entry.json) ++ "\n]"

theorem json_eq_array (entries : List Entry) : json entries = array entries ++ "\n" := by
  cases entries with
  | nil => rfl
  | cons e entries => simp [json, array, String.append_assoc]

theorem toList_array_cons (e : Entry) (entries : List Entry) :
    (array (e :: entries)).toList = '[' :: '\n' ::
      ((String.intercalate ",\n" ((e :: entries).map Entry.json)).toList ++ ['\n', ']']) := by
  have hopen : "[\n".toList = ['[', '\n'] := rfl
  have hclose : "\n]".toList = ['\n', ']'] := rfl
  simp only [array, String.toList_append, hopen, hclose, List.cons_append, List.nil_append]

theorem bracketed_array (entries : List Entry) :
    (array entries).toList.head? = some '[' ∧ (array entries).toList.getLast? = some ']' := by
  cases entries with
  | nil => exact ⟨rfl, rfl⟩
  | cons e entries =>
    rw [toList_array_cons]
    exact ⟨rfl, by simp [List.getLast?_cons]⟩

theorem length_intercalate (entries : List Entry) :
    8 * entries.length ≤ (String.intercalate ",\n" (entries.map Entry.json)).toList.length := by
  induction entries with
  | nil => exact Nat.zero_le _
  | cons e entries ih =>
    have he := length_json e
    cases entries with
    | nil => simpa using he
    | cons f entries =>
      rw [List.map_cons, List.map_cons, String.intercalate_cons_cons, ← List.map_cons]
      simp only [String.toList_append, List.length_append, List.length_cons] at he ih ⊢
      omega

theorem value?_array_cons (e : Entry) (entries : List Entry) {fuel : Nat}
    (hf : 9 + (e :: entries).length ≤ fuel) (rest : List Char) :
    Json.value? (fuel + 1) ((array (e :: entries)).toList ++ rest) =
      some (.array ((e :: entries).map fun e => .object e.values), rest) := by
  rw [toList_array_cons]
  simp only [List.cons_append, List.nil_append, List.append_assoc]
  refine Json.value?_array ?_
  rw [← Json.items?_skip, Json.skip_of_blank rfl, Json.items?_skip]
  exact Json.items?_intercalate readAs_json (List.cons_ne_nil e entries) hf rest

/-- The array is read back whatever blanks follow it. -/
theorem read?_array (entries : List Entry) {blanks : String} (hb : Json.skip blanks.toList = []) :
    Json.read? (array entries ++ blanks) = some (.array (entries.map fun e => .object e.values)) := by
  rw [Json.read?, String.toList_append]
  cases entries with
  | nil =>
    have hv (fuel : Nat) : Json.value? (fuel + 1) ((array []).toList ++ blanks.toList) =
        some (.array [], blanks.toList) := rfl
    simp [hv, hb]
  | cons e entries =>
    have hlen : 9 + (e :: entries).length ≤
        ((array (e :: entries)).toList ++ blanks.toList).length := by
      have hi := length_intercalate (e :: entries)
      rw [toList_array_cons]
      simp only [List.length_append, List.length_cons, List.length_nil] at hi ⊢
      omega
    rw [value?_array_cons e entries hlen]
    simp [hb]

def entries? (text : String) : Option (List Entry) :=
  match Json.read? text with
  | some (.array values) => values.mapM Entry.ofValue?
  | _ => none

theorem entries?_array (entries : List Entry) {blanks : String} (hb : Json.skip blanks.toList = []) :
    entries? (array entries ++ blanks) = some entries := by
  simp only [entries?, read?_array entries hb]
  induction entries with
  | nil => rfl
  | cons e entries ih => simp [ofValue?_values, ih]

theorem entries?_json (entries : List Entry) : entries? (json entries) = some entries := by
  rw [json_eq_array]
  exact entries?_array entries rfl

end Arrays

structure Entry.Describes (d : Diagnostic Location) (e : Entry) : Prop where
  path : e.path = d.location.path
  line : e.line = d.location.line
  column : e.column = d.location.column
  id : e.id = d.finding.details.id
  severity : e.severity = d.finding.details.severity.name
  title : e.title = d.finding.details.title
  message : e.message = d.finding.details.message d.argument

structure ReportedAlike (d e : Diagnostic Location) : Prop where
  path : d.location.path = e.location.path
  line : d.location.line = e.location.line
  column : d.location.column = e.location.column
  id : d.finding.details.id = e.finding.details.id
  severity : d.finding.details.severity.name = e.finding.details.severity.name
  title : d.finding.details.title = e.finding.details.title
  message : d.finding.details.message d.argument = e.finding.details.message e.argument

def Entry.print (e : Entry) : String :=
  e.path ++ ":" ++ toString e.line ++ ":" ++ toString e.column ++ ": " ++ e.severity ++ "[" ++ e.id ++
    "]: " ++ e.message ++ "\n"

theorem describes_ofDiagnostic (d : Diagnostic Location) : Entry.Describes d (.ofDiagnostic d) :=
  ⟨rfl, rfl, rfl, rfl, rfl, rfl, rfl⟩

theorem forall₂_describes (ds : List (Diagnostic Location)) :
    List.Forall₂ Entry.Describes ds (ds.map Entry.ofDiagnostic) := by
  rw [List.forall₂_map_right_iff, List.forall₂_same]
  exact fun d _ => describes_ofDiagnostic d

theorem ofDiagnostic_eq_iff (d e : Diagnostic Location) :
    Entry.ofDiagnostic d = Entry.ofDiagnostic e ↔ ReportedAlike d e := by
  constructor
  · intro h
    obtain ⟨hpath, hline, hcolumn, hid, hseverity, htitle, hmessage⟩ := Entry.mk.inj h
    exact ⟨hpath, hline, hcolumn, hid, hseverity, htitle, hmessage⟩
  · rintro ⟨hpath, hline, hcolumn, hid, hseverity, htitle, hmessage⟩
    exact Entry.mk.injEq .. ▸ ⟨hpath, hline, hcolumn, hid, hseverity, htitle, hmessage⟩

theorem map_ofDiagnostic_eq_iff (ds es : List (Diagnostic Location)) :
    ds.map Entry.ofDiagnostic = es.map Entry.ofDiagnostic ↔ List.Forall₂ ReportedAlike ds es := by
  rw [← congrFun₂ List.forall₂_eq_eq_eq, List.forall₂_map_left_iff, List.forall₂_map_right_iff]
  simp only [ofDiagnostic_eq_iff]

/-- The line of an entry is what the text report has for the diagnostic itself. -/
theorem print_ofDiagnostic (d : Diagnostic Location) : (Entry.ofDiagnostic d).print = textLine d := rfl

theorem join_print (ds : List (Diagnostic Location)) :
    String.join ((ds.map Entry.ofDiagnostic).map Entry.print) = report .text ds := by
  rw [List.map_map]
  exact congrArg String.join (List.map_congr_left fun d _ => print_ofDiagnostic d)

end Report

open Report in
/-- The JSON report is an array and a line feed. Read back, with or without the line feed, it lists one
entry for each diagnostic in order, which holds its path, line, column, id, severity, title and message;
so equal reports come from diagnostics that agree in all of these. Printed line by line, the entries that
were read back are the text report. -/
theorem report_json_decodes (ds : List (Diagnostic Location)) :
    (∃ array entries, report .json ds = array ++ "\n" ∧
      array.toList.head? = some '[' ∧ array.toList.getLast? = some ']' ∧
      entries? array = some entries ∧ List.Forall₂ Entry.Describes ds entries) ∧
    (∃ entries, entries? (report .json ds) = some entries ∧ List.Forall₂ Entry.Describes ds entries ∧
      String.join (entries.map Entry.print) = report .text ds) ∧
    ∀ es, report .json es = report .json ds ↔ List.Forall₂ ReportedAlike es ds := by
  refine ⟨⟨array (ds.map Entry.ofDiagnostic), _, json_eq_array _, ?_, ?_, ?_, forall₂_describes ds⟩,
    ⟨_, entries?_json _, forall₂_describes ds, join_print ds⟩, fun es => ?_⟩
  · exact (bracketed_array _).1
  · exact (bracketed_array _).2
  · have h : Json.skip "".toList = [] := rfl
    simpa using entries?_array (ds.map Entry.ofDiagnostic) h
  · rw [← map_ofDiagnostic_eq_iff]
    refine ⟨fun h => ?_, fun h => congrArg json h⟩
    have he := entries?_json (es.map Entry.ofDiagnostic)
    rw [show json (es.map Entry.ofDiagnostic) = json (ds.map Entry.ofDiagnostic) from h,
      entries?_json] at he
    exact (Option.some.inj he).symm

open Report in
/-- A path and a name with characters that are escaped are read back as they were. -/
theorem report_json_decodes_escaped :
    let d : Diagnostic Location := ⟨.invalidName, ⟨"a\"b\\.cs", 12, 3⟩, "x\t\x01'\n"⟩
    report .json [d] ≠ "[]\n" ∧ ∃ e, entries? (report .json [d]) = some [e] ∧
      e.path = "a\"b\\.cs" ∧ e.line = 12 ∧ e.column = 3 ∧ e.id = "RR2001" ∧ e.severity = "warning" ∧
      e.title = "Invalid #region name" ∧
      e.message = "Region name 'x\t\x01'\n' is not in the allowed names list" := by
  intro d
  obtain ⟨_, ⟨entries, hread, hentries, _⟩, _⟩ := report_json_decodes [d]
  obtain ⟨e, _, he, hnil, rfl⟩ := List.forall₂_cons_left_iff.1 hentries
  obtain rfl := List.forall₂_nil_left_iff.1 hnil
  refine ⟨by decide, e, hread, he.path, he.line, he.column, he.id, he.severity, he.title, ?_⟩
  exact he.message.trans (by decide)

end RegionNaming
