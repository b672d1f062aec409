import RegionNaming.Proofs.Assignments
import RegionNaming.Run.Job

/-! The options that a command line leads to. Assignments go over the options file as if they were
carried out on it one after another: the last write to a key counts, and the first text that is no
assignment ends it. -/

namespace RegionNaming.Run

open Options

def NoWrite (texts : List String) (key : String) : Prop := ∀ t ∈ texts, ∀ v, ¬ Writes t key v

def LastWrite (texts : List String) (key value : String) : Prop :=
  ∃ before text later, texts = before ++ text :: later ∧ Writes text key value ∧ NoWrite later key

def FirstFlawed (texts : List String) (text : String) : Prop :=
  ∃ before later, texts = before ++ text :: later ∧ (∀ t ∈ before, WellFormed t) ∧ ¬ WellFormed text

theorem FirstFlawed.not_all {texts : List String} {text : String} (h : FirstFlawed texts text) :
    ¬ ∀ t ∈ texts, WellFormed t := by
  obtain ⟨before, later, rfl, _, ht⟩ := h
  exact fun hall => ht (hall text (by simp))

namespace Job

/-- What a first text adds to the carrying out of the others. -/
theorem assignAll_cons_of_writes {text key value : String} (h : Writes text key value) (s : Store)
    (rest : List String) : assignAll s (text :: rest) = assignAll (s.put key value) rest := by
  rw [assignAll, assign_of_writes h]

theorem assignAll_cons_of_not_wellFormed {text : String} (h : ¬ WellFormed text) (s : Store)
    (rest : List String) : assignAll s (text :: rest) = .error (.badOption text (flaw text)) := by
  rw [assignAll, assign_of_not_wellFormed h]

/-- Texts that are all assignments write the same entries over any store. -/
theorem assignAll_of_wellFormed {texts : List String} (h : ∀ t ∈ texts, WellFormed t) :
    ∃ entries, ∀ s, assignAll s texts = .ok (s.putAll entries) := by
  induction texts with
  | nil => exact ⟨[], fun s => rfl⟩
  | cons text rest ih =>
    obtain ⟨ht, hrest⟩ := List.forall_mem_cons.1 h
    obtain ⟨key, value, hw⟩ := (wellFormed_iff_writes text).1 ht
    obtain ⟨entries, he⟩ := ih hrest
    refine ⟨(key, value) :: entries, fun s => ?_⟩
    rw [assignAll_cons_of_writes hw, he, Store.putAll_cons]

/-- The first text that is no assignment is the error, whatever the store. -/
theorem assignAll_of_firstFlawed {texts : List String} {text : String}
    (h : FirstFlawed texts text) (s : Store) :
    assignAll s texts = .error (.badOption text (flaw text)) := by
  obtain ⟨before, later, rfl, hb, ht⟩ := h
  induction before generalizing s with
  | nil => exact assignAll_cons_of_not_wellFormed ht s later
  | cons t before ih =>
    obtain ⟨hwf, hb⟩ := List.forall_mem_cons.1 hb
    obtain ⟨key, value, hw⟩ := (wellFormed_iff_writes t).1 hwf
    rw [List.cons_append, assignAll_cons_of_writes hw]
    exact ih (s.put key value) hb

/-- Either all texts are assignments or one is the first that is not. -/
theorem wellFormed_or_firstFlawed (texts : List String) :
    (∀ t ∈ texts, WellFormed t) ∨ ∃ text, FirstFlawed texts text := by
  induction texts with
  | nil => exact .inl nofun
  | cons t rest ih =>
    by_cases ht : WellFormed t
    · rcases ih with hall | ⟨text, before, later, rfl, hb, hf⟩
      · exact .inl (List.forall_mem_cons.2 ⟨ht, hall⟩)
      · exact .inr ⟨text, t :: before, later, rfl, List.forall_mem_cons.2 ⟨ht, hb⟩, hf⟩
    · exact .inr ⟨t, [], rest, rfl, nofun, ht⟩

/-- After assignments a key has the value last written to it, and without one the value it had. -/
theorem get?_of_assignAll {texts : List String} {s s' : Store} (h : assignAll s texts = .ok s')
    (key : String) :
    (∃ value, LastWrite texts key value ∧ s'.get? key = some value) ∨
      NoWrite texts key ∧ s'.get? key = s.get? key := by
  induction texts generalizing s with
  | nil =>
    cases h
    exact .inr ⟨nofun, rfl⟩
  | cons text rest ih =>
    by_cases ht : WellFormed text
    · obtain ⟨k, v, hw⟩ := (wellFormed_iff_writes text).1 ht
      rw [assignAll_cons_of_writes hw] at h
      rcases ih h with ⟨value, ⟨before, t, later, rfl, hl⟩, hget⟩ | ⟨hno, hget⟩
      · exact .inl ⟨value, ⟨text :: before, t, later, rfl, hl⟩, hget⟩
      · rw [Store.get?_put] at hget
        by_cases hk : key = k
        · subst hk
          exact .inl ⟨v, ⟨[], text, rest, rfl, hw, hno⟩, by rw [hget, if_pos rfl]⟩
        · have hne : ∀ u, ¬ Writes text key u := fun u hu => hk (hu.unique hw).1
          exact .inr ⟨List.forall_mem_cons.2 ⟨hne, hno⟩, by rw [hget, if_neg hk]⟩
    · rw [assignAll_cons_of_not_wellFormed ht] at h
      cases h

/-- Carrying out assignments is carrying out each of them in turn. -/
theorem foldlM_assign_of_assignAll {texts : List String} {s s' : Store}
    (h : assignAll s texts = .ok s') : texts.foldlM Store.assign s = .ok s' := by
  induction texts generalizing s with
  | nil =>
    cases h
    rfl
  | cons text rest ih =>
    rw [assignAll] at h
    cases ha : s.assign text with
    | error e =>
      rw [ha] at h
      cases h
    | ok t =>
      rw [ha] at h
      rw [List.foldlM_cons, ha]
      exact ih h

/-- The options on which the assignments of a command line are carried out: those of the options
file, and none if there is no such file. -/
def baseOptions (fs : Files) (args : Arguments) : Except RunError Store :=
  match args.config.orElse fun _ => fs.findOptions "." with
  | some path => loadOptions fs path
  | none => .ok Store.empty

/-- What a command line leads to: the error of the options file, that of the first text that is no
assignment, or a job whose options are those of the file after all assignments. -/
theorem ofArguments_cases (fs : Files) (args : Arguments) :
    (∃ e, baseOptions fs args = .error e ∧ ofArguments fs args = .error e) ∨
    (∃ base text, baseOptions fs args = .ok base ∧ FirstFlawed args.options text ∧
      ofArguments fs args = .error (.badOption text (flaw text))) ∨
    ∃ base job, baseOptions fs args = .ok base ∧ (∀ t ∈ args.options, WellFormed t) ∧
      ofArguments fs args = .ok job ∧ assignAll base args.options = .ok job.options := by
  have hof : ofArguments fs args = (baseOptions fs args).bind fun base =>
      (assignAll .empty args.options).bind fun overrides => .ok
        ⟨args.files, args.config.orElse fun _ => fs.findOptions ".", base.merge overrides,
          args.format, args.denyWarnings, args.logFilter⟩ := by
    rw [ofArguments, baseOptions]
    cases args.config.orElse fun _ => fs.findOptions "." <;> rfl
  cases hb : baseOptions fs args with
  | error e => exact .inl ⟨e, rfl, by rw [hof, hb]; rfl⟩
  | ok base =>
    rcases wellFormed_or_firstFlawed args.options with hall | ⟨text, hf⟩
    · obtain ⟨entries, he⟩ := assignAll_of_wellFormed hall
      refine .inr (.inr ⟨base, _, rfl, hall, by rw [hof, hb, he]; rfl, ?_⟩)
      rw [he]
      exact congrArg Except.ok (Store.merge_ofList base entries).symm
    · exact .inr (.inl ⟨base, text, rfl, hf, by rw [hof, hb, assignAll_of_firstFlawed hf]; rfl⟩)

/-- The effective options of a command line. There is a job exactly if the options file, if any, can be
loaded and every text is an assignment; its options are those of the file, overridden by the last
write to each key, which is what the assignments make of the file's options one after another. The
error is that of the file, or else that of the first text that is no assignment. -/
theorem ofArguments_options (fs : Files) (args : Arguments) :
    ((∃ job, ofArguments fs args = .ok job) ↔
      (∃ base, baseOptions fs args = .ok base) ∧ ∀ t ∈ args.options, WellFormed t) ∧
    (∀ job, ofArguments fs args = .ok job → ∃ base, baseOptions fs args = .ok base ∧
      (∀ key, (∃ value, LastWrite args.options key value ∧ job.options.get? key = some value) ∨
        NoWrite args.options key ∧ job.options.get? key = base.get? key) ∧
      args.options.foldlM Store.assign base = .ok job.options) ∧
    (∀ e, ofArguments fs args = .error e → baseOptions fs args = .error e ∨
      (∃ base, baseOptions fs args = .ok base) ∧
        ∃ text, FirstFlawed args.options text ∧ e = .badOption text (flaw text)) := by
  rcases ofArguments_cases fs args with
    ⟨e, hb, ho⟩ | ⟨base, text, hb, hf, ho⟩ | ⟨base, job, hb, hall, ho, ha⟩
  · rw [hb, ho]
    refine ⟨by simp, by simp, ?_⟩
    rintro _ ⟨⟩
    exact .inl rfl
  · rw [hb, ho]
    refine ⟨⟨by simp, fun h => absurd h.2 hf.not_all⟩, by simp, ?_⟩
    rintro _ ⟨⟩
    exact .inr ⟨⟨base, rfl⟩, text, hf, rfl⟩
  · rw [hb, ho]
    refine ⟨by simpa using hall, ?_, by simp⟩
    rintro _ ⟨⟩
    exact ⟨base, rfl, fun key => get?_of_assignAll ha key, foldlM_assign_of_assignAll ha⟩

/-- Two spellings of one key, of which the later counts, with an equals sign in its value. -/
theorem ofArguments_options_repeated_key :
    let fs : Files := ⟨fun _ => .error .missing, fun _ => false, none⟩
    let args : Arguments :=
      ⟨["a.cs"], none, ["a=1", " region_ruler.a = x=y ", "b=2"], .text, false, "warn"⟩
    ∃ job base, ofArguments fs args = .ok job ∧
      args.options.foldlM Store.assign base = .ok job.options ∧
      job.options.get? "region_ruler.a" = some "x=y" := by
  intro fs args
  have hjob : ofArguments fs args = .ok ⟨["a.cs"], none,
      ⟨[("region_ruler.a", "x=y"), ("region_ruler.b", "2")], by decide⟩, .text, false, "warn"⟩ := rfl
  obtain ⟨base, _, _, hf⟩ := (ofArguments_options fs args).2.1 _ hjob
  exact ⟨_, base, hjob, hf, by decide⟩

-- A default options file that is there and cannot be read is not passed over.
example :
    let denied : ReadError := .other "Permission denied (os error 13)"
    let fs : Files := ⟨fun _ => .error denied, fun path => path = "./region-ruler.toml", none⟩
    let args : Arguments := ⟨["a.cs"], none, ["a"], .text, false, "warn"⟩
    ofArguments fs args = .error (.readOptions "./region-ruler.toml" denied) := rfl

end Job

end RegionNaming.Run
