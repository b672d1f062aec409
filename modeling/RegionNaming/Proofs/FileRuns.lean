import Mathlib.Data.List.Forall2
import RegionNaming.Run.Basic

/-! A run over many files. If all can be read, the report holds what is found in each of them on its
own, in their order; the first one that cannot be read ends the run, without a report and whatever
comes after it. -/

namespace RegionNaming.Run

open Source

namespace Files

variable (fs : Files) (path : String)

def Holds (text : String) : Prop := fs.bytes path = .ok text.toUTF8

/-- Why there is no text at a path: the file is not there to be read, or its bytes are no UTF-8 form. -/
def Refuses (cause : ReadError) : Prop :=
  fs.bytes path = .error cause ∨
    cause = .encoding ∧ ∃ bytes, fs.bytes path = .ok bytes ∧ ∀ text : String, text.toUTF8 ≠ bytes

theorem fromUTF8?_eq_some_iff (bytes : ByteArray) (text : String) :
    String.fromUTF8? bytes = some text ↔ text.toUTF8 = bytes := by
  rw [String.fromUTF8?]
  constructor
  · intro h
    split at h
    · cases h
      rfl
    · cases h
  · rintro rfl
    exact dif_pos text.isValidUTF8

theorem read_of_holds {fs : Files} {path text : String} (h : fs.Holds path text) :
    fs.read path = .ok text := by
  have hd : String.fromUTF8? text.toUTF8 = some text := (fromUTF8?_eq_some_iff _ text).2 rfl
  rw [read, h]
  simp only [hd]

theorem Refuses.not_holds {fs : Files} {path text : String} {cause : ReadError}
    (h : fs.Refuses path cause) : ¬ fs.Holds path text := by
  intro ht
  rw [Holds] at ht
  rcases h with he | ⟨_, bytes, hb, hno⟩
  · rw [he] at ht
    cases ht
  · rw [hb] at ht
    exact hno text (Except.ok.inj ht).symm

/-- Each path holds a text or refuses to be read for some cause. -/
theorem holds_or_refuses :
    (∃ text, fs.Holds path text) ∨ ∃ cause, fs.Refuses path cause ∧ fs.read path = .error cause := by
  cases hb : fs.bytes path with
  | error cause => exact .inr ⟨cause, .inl hb, by rw [read, hb]⟩
  | ok bytes =>
    cases hd : String.fromUTF8? bytes with
    | some text =>
      rw [fromUTF8?_eq_some_iff] at hd
      exact .inl ⟨text, by rw [Holds, hb, hd]⟩
    | none =>
      refine .inr ⟨.encoding, .inr ⟨rfl, bytes, hb, ?_⟩, by rw [read, hb]; simp only [hd]⟩
      intro text ht
      rw [(fromUTF8?_eq_some_iff bytes text).2 ht] at hd
      cases hd

/-- The paths up to the first one that holds no text. -/
theorem all_hold_or_first (paths : List String) :
    (∀ p ∈ paths, ∃ text, fs.Holds p text) ∨
    ∃ before p later, paths = before ++ p :: later ∧ (∀ q ∈ before, ∃ text, fs.Holds q text) ∧
      ∃ cause, fs.Refuses p cause ∧ fs.read p = .error cause := by
  induction paths with
  | nil => exact .inl nofun
  | cons p paths ih =>
    rcases fs.holds_or_refuses p with hp | hp
    · rcases ih with hall | ⟨before, q, later, rfl, hb, hq⟩
      · exact .inl (List.forall_mem_cons.2 ⟨hp, hall⟩)
      · exact .inr ⟨p :: before, q, later, rfl, List.forall_mem_cons.2 ⟨hp, hb⟩, hq⟩
    · exact .inr ⟨[], p, paths, rfl, nofun, hp⟩

end Files

variable {clock : Clock} {faults : Faults} {fs : Files} (options : Options.Lookup)

/-- Files that can all be read give what is found in each of them. -/
theorem diagnoseFiles_of_holds {paths : List String} (h : ∀ p ∈ paths, ∃ text, fs.Holds p text) :
    ∃ blocks, List.Forall₂
        (fun p block => ∃ text, fs.Holds p text ∧ block = diagnoseText clock options p text) paths blocks ∧
      diagnoseFiles clock fs options paths = .ok blocks.flatten := by
  induction paths with
  | nil => exact ⟨[], .nil, rfl⟩
  | cons p paths ih =>
    obtain ⟨⟨text, ht⟩, hrest⟩ := List.forall_mem_cons.1 h
    obtain ⟨blocks, hb, hd⟩ := ih hrest
    refine ⟨diagnoseText clock options p text :: blocks, .cons ⟨text, ht, rfl⟩ hb, ?_⟩
    rw [diagnoseFiles, Files.read_of_holds ht, hd, List.flatten_cons]

/-- The first file that cannot be read is the error. -/
theorem diagnoseFiles_of_first {before : List String} {path : String} {cause : ReadError}
    (hb : ∀ p ∈ before, ∃ text, fs.Holds p text) (hp : fs.read path = .error cause)
    (later : List String) :
    diagnoseFiles clock fs options (before ++ path :: later) = .error (.readSource path cause) := by
  induction before with
  | nil => rw [List.nil_append, diagnoseFiles, hp]
  | cons p before ih =>
    obtain ⟨⟨text, ht⟩, hb⟩ := List.forall_mem_cons.1 hb
    rw [List.cons_append, diagnoseFiles, Files.read_of_holds ht, ih hb]

/-- What is logged ends with the first file that cannot be read. -/
theorem filesRecords_of_first {before : List String} {path : String} {cause : ReadError}
    (hp : fs.read path = .error cause) (later : List String) :
    filesRecords clock faults fs options (before ++ path :: later) =
      filesRecords clock faults fs options before := by
  induction before with
  | nil => simp only [List.nil_append, filesRecords, hp]
  | cons p before ih => rw [List.cons_append, filesRecords, ih, filesRecords]

theorem filesRecords_congr {fs' : Files} {paths : List String}
    (h : ∀ p ∈ paths, fs'.bytes p = fs.bytes p) :
    filesRecords clock faults fs' options paths = filesRecords clock faults fs options paths := by
  induction paths with
  | nil => rfl
  | cons p paths ih =>
    obtain ⟨hp, hrest⟩ := List.forall_mem_cons.1 h
    rw [filesRecords, filesRecords, ih hrest, Files.read, Files.read, hp]

theorem render_readSource (faults : Faults) (path : String) (cause : ReadError) :
    (RunError.readSource path cause).render faults =
      "Error: Failed to read " ++ path ++ "\n\nCaused by:\n" ++
        RunError.causeLines none cause.message := by
  have hr : (RunError.readSource path cause).render faults = "Error: " ++ String.intercalate "\n"
      ["Failed to read " ++ path, "", "Caused by:", RunError.causeLines none cause.message] := rfl
  have he : "Error: Failed to read " = "Error: " ++ "Failed to read " := by decide
  have hc : "\n\nCaused by:\n" = "\n" ++ ("" ++ ("\n" ++ ("Caused by:" ++ "\n"))) := by decide
  rw [hr, he, hc]
  simp only [String.intercalate_cons_cons, String.intercalate_singleton, String.append_assoc]

theorem report_cons_ne (format : Format) (d : Diagnostic Location)
    (rest : List (Diagnostic Location)) :
    report format (d :: rest) ≠ match format with
      | .text => ""
      | .json => "[]\n" := by
  intro h
  have hl := congrArg String.toList h
  cases format with
  | text => simp [report, Report.text, Report.textLine, String.toList_join] at hl
  | json => simp [report, Report.json] at hl

/-- A report shows whether there is anything to report. -/
theorem ne_nil_iff_report_ne (format : Format) (found : List (Diagnostic Location)) :
    found ≠ [] ↔ report format found ≠ match format with
      | .text => ""
      | .json => "[]\n" := by
  cases found with
  | nil => cases format <;> simp [report, Report.text, Report.json]
  | cons d rest => simpa using report_cons_ne format d rest

namespace Job

variable (job : Job) (clock : Clock) (faults : Faults) (fs : Files) (filter : Option String)

theorem run_of_ok {found : List (Diagnostic Location)} (h : job.diagnostics clock fs = .ok found) :
    (job.run clock faults fs filter).stdout = report job.format found ∧
      (job.run clock faults fs filter).report = none ∧
      (job.run clock faults fs filter).status = if job.denyWarnings = true ∧ found ≠ [] then 1 else 0 := by
  rw [run, h]
  refine ⟨rfl, rfl, ?_⟩
  cases job.denyWarnings <;> cases found <;> rfl

theorem run_of_error {e : RunError} (h : job.diagnostics clock fs = .error e) :
    job.run clock faults fs filter =
      ⟨1, "", (job.records clock faults fs).filter (LogFilter.read (filter.getD job.logFilter)).shows,
        some (e.render faults)⟩ := by
  rw [run, h]

/-- A run that the first unreadable file ends is settled by the files up to it. -/
theorem run_congr_of_first {fs fs' : Files} {before later : List String} {path : String}
    {cause : ReadError} (hfiles : job.files = before ++ path :: later)
    (hb : ∀ p ∈ before, ∃ text, fs.Holds p text) (hp : fs.read path = .error cause)
    (hsame : ∀ p ∈ before ++ [path], fs'.bytes p = fs.bytes p) (later' : List String) :
    ({ job with files := before ++ path :: later' } : Job).run clock faults fs' filter =
      job.run clock faults fs filter := by
  rw [List.forall_mem_append, List.forall_mem_singleton] at hsame
  have hb' : ∀ p ∈ before, ∃ text, fs'.Holds p text := by
    intro p hm
    obtain ⟨text, ht⟩ := hb p hm
    exact ⟨text, (hsame.1 p hm).trans ht⟩
  have hp' : fs'.read path = .error cause := by rw [← hp, Files.read, Files.read, hsame.2]
  have hd : job.diagnostics clock fs = .error (.readSource path cause) := by
    rw [diagnostics, hfiles]
    exact diagnoseFiles_of_first _ hb hp later
  have hd' : ({ job with files := before ++ path :: later' } : Job).diagnostics clock fs' =
      .error (.readSource path cause) := diagnoseFiles_of_first _ hb' hp' later'
  have hr : filesRecords clock faults fs job.options.get? job.files =
      filesRecords clock faults fs job.options.get? before := by
    rw [hfiles, filesRecords_of_first _ hp]
  rw [run_of_error _ clock faults fs' filter hd', run_of_error job clock faults fs filter hd]
  simp only [records, filesRecords_of_first _ hp', filesRecords_congr _ hsame.1, hr]
  rfl

/-- A whole run over many files. If each of them holds a text, what is printed is the report of what is
found in each of them on its own, in their order, and the status tells whether warnings are denied and
there are any. If one does not, the first of these is the error that is named, nothing is printed, the
status is one, and neither the files after it nor what is in them makes a difference. -/
theorem run_files :
    ((∀ path ∈ job.files, ∃ text, fs.Holds path text) →
      ∃ blocks, List.Forall₂
          (fun path block => ∃ text, fs.Holds path text ∧
            block = diagnoseText clock job.options.get? path text) job.files blocks ∧
        (job.run clock faults fs filter).stdout = report job.format blocks.flatten ∧
        (job.run clock faults fs filter).report = none ∧
        (job.run clock faults fs filter).status =
          (if job.denyWarnings = true ∧ blocks.flatten ≠ [] then 1 else 0) ∧
        (blocks.flatten ≠ [] ↔ (job.run clock faults fs filter).stdout ≠ match job.format with
          | .text => ""
          | .json => "[]\n")) ∧
    ((∃ path ∈ job.files, ∀ text, ¬ fs.Holds path text) →
      ∃ before path later cause, job.files = before ++ path :: later ∧
        (∀ p ∈ before, ∃ text, fs.Holds p text) ∧ (∀ text, ¬ fs.Holds path text) ∧
        fs.Refuses path cause ∧
        (job.run clock faults fs filter).report = some ("Error: Failed to read " ++ path ++
          "\n\nCaused by:\n" ++ RunError.causeLines none cause.message) ∧
        (job.run clock faults fs filter).stdout = "" ∧ (job.run clock faults fs filter).status = 1 ∧
        ∀ later' fs', (∀ p ∈ before ++ [path], fs'.bytes p = fs.bytes p) →
          ({ job with files := before ++ path :: later' } : Job).run clock faults fs' filter =
            job.run clock faults fs filter) := by
  constructor
  · intro hall
    obtain ⟨blocks, hb, hd⟩ := diagnoseFiles_of_holds job.options.get? hall
    obtain ⟨hout, hreport, hstatus⟩ := run_of_ok job clock faults fs filter hd
    refine ⟨blocks, hb, hout, hreport, hstatus, ?_⟩
    rw [hout]
    exact ne_nil_iff_report_ne job.format blocks.flatten
  · rintro ⟨p, hm, hp⟩
    rcases fs.all_hold_or_first job.files with hall | ⟨before, path, later, hfiles, hb, cause, hc, hr⟩
    · obtain ⟨text, ht⟩ := hall p hm
      exact absurd ht (hp text)
    · have hd : job.diagnostics clock fs = .error (.readSource path cause) := by
        rw [diagnostics, hfiles]
        exact diagnoseFiles_of_first _ hb hr later
      refine ⟨before, path, later, cause, hfiles, hb, fun text => hc.not_holds, hc, ?_, ?_, ?_, ?_⟩
      · rw [run_of_error job clock faults fs filter hd, render_readSource]
      · rw [run_of_error job clock faults fs filter hd]
      · rw [run_of_error job clock faults fs filter hd]
      · intro later' fs' hsame
        exact run_congr_of_first job clock faults filter hfiles hb hr hsame later'

/-- A file with a finding, given twice: alone it is reported twice and denied, and next to a missing
file it is not reported at all. -/
theorem run_files_missing_file :
    let fs : Files :=
      ⟨fun path => if path = "a.cs" then .ok "#region".toUTF8 else .error .missing,
        fun path => path = "a.cs", none⟩
    let faults : Faults := ⟨id, id⟩
    let options := Options.Store.empty.put Options.allowEmptyKey "false"
    let twice : Job := ⟨["a.cs", "a.cs"], none, options, .text, true, "warn"⟩
    let missing : Job := { twice with files := ["a.cs", "b.cs", "a.cs"], denyWarnings := false }
    (twice.run .still faults fs none).stdout ≠ "" ∧ (twice.run .still faults fs none).status = 1 ∧
      (missing.run .still faults fs none).stdout = "" ∧ (missing.run .still faults fs none).status = 1 := by
  intro fs faults options twice missing
  have ha : fs.Holds "a.cs" "#region" := rfl
  have hall : ∀ path ∈ twice.files, ∃ text, fs.Holds path text := by
    intro path hm
    obtain rfl : path = "a.cs" := by simpa [twice] using hm
    exact ⟨_, ha⟩
  obtain ⟨blocks, hb, _, _, hstatus, hne⟩ := (run_files twice .still faults fs none).1 hall
  have hfound : blocks.flatten ≠ [] := by
    obtain ⟨block, rest, ⟨text, ht, rfl⟩, _, rfl⟩ := List.forall₂_cons_left_iff.1 hb
    obtain rfl : text = "#region" := String.toByteArray_inj.1 (Except.ok.inj (ht.symm.trans ha))
    have hd : diagnoseText .still options.get? "a.cs" "#region" ≠ [] := by decide
    exact List.append_ne_nil_of_left_ne_nil hd _
  have hb : ∃ path ∈ missing.files, ∀ text, ¬ fs.Holds path text := ⟨"b.cs", by simp [missing], nofun⟩
  obtain ⟨_, _, _, _, _, _, _, _, _, hnone, hone, _⟩ := (run_files missing .still faults fs none).2 hb
  exact ⟨hne.1 hfound, hstatus.trans (if_pos ⟨rfl, hfound⟩), hnone, hone⟩

end Job

end RegionNaming.Run
