import RegionNaming.Options.History
import RegionNaming.Proofs.Assignments
import RegionNaming.Proofs.FlattenFailures

/-! A store through its history. Whatever was done to a store, each key has the value of the latest
write that was made to it since the store last started anew; what failed wrote nothing. -/

namespace RegionNaming.Options

open Toml (read? ScalarArrays tableLeaves leafEntry)

namespace Operation

def replaces : Operation → Bool
  | .clear | .collect _ | .load _ => true
  | .overlay _ | .insert _ _ | .assign _ | .merge _ => false

/-- What makes an operation fail: a document that is not well formed or has an array of more than
scalars, or a text that is no assignment. -/
def Fails : Operation → Prop
  | .load text | .overlay text =>
    read? text = none ∨ ∃ table, read? text = some table ∧ ¬ ScalarArrays table
  | .assign text => ¬ WellFormed text
  | .clear | .collect _ | .insert _ _ | .merge _ => False

/-- The entries that an operation writes, in their order, if it does not fail. Entries that are given
and those of another store keep their keys, the leaves of a document have dotted keys, and other keys
are trimmed and get the common start. -/
inductive Puts : Operation → List Entry → Prop
  | clear : Puts .clear []
  | collect (entries : List Entry) : Puts (.collect entries) entries
  | load {text : String} {table : List (String × Toml.Value)} (hr : read? text = some table)
      (hs : ScalarArrays table) : Puts (.load text) ((tableLeaves table).map leafEntry)
  | overlay {text : String} {table : List (String × Toml.Value)} (hr : read? text = some table)
      (hs : ScalarArrays table) : Puts (.overlay text) ((tableLeaves table).map leafEntry)
  | insert (key value : String) : Puts (.insert key value) [(writtenKey key, value)]
  | assign {text key value : String} (h : Writes text key value) : Puts (.assign text) [(key, value)]
  | merge (other : Store) : Puts (.merge other) other.entries

variable {op : Operation} {entries : List Entry}

/-- What an operation writes is settled by it. -/
theorem Puts.unique {entries' : List Entry} (h : op.Puts entries) (h' : op.Puts entries') :
    entries = entries' := by
  cases h with
  | load hr _ =>
    cases h' with
    | load hr' _ => cases hr.symm.trans hr'; rfl
  | overlay hr _ =>
    cases h' with
    | overlay hr' _ => cases hr.symm.trans hr'; rfl
  | assign hw =>
    cases h' with
    | assign hw' =>
      obtain ⟨rfl, rfl⟩ := hw.unique hw'
      rfl
  | clear => cases h'; rfl
  | collect => cases h'; rfl
  | insert => cases h'; rfl
  | merge => cases h'; rfl

def ground (op : Operation) (s : Store) : Store := if op.replaces then .empty else s

theorem ofDocument_of_scalarArrays {text : String} {table : List (String × Toml.Value)}
    (hr : read? text = some table) (hs : ScalarArrays table) :
    Store.ofDocument text = .ok (.ofList ((tableLeaves table).map leafEntry)) := by
  rw [Store.ofDocument, hr]
  simp only [Toml.flatten_of_scalarArrays hs]
  rfl

/-- An operation that writes succeeds, with its entries on the store or on a new one. -/
theorem apply_of_puts (h : op.Puts entries) (s : Store) :
    op.apply s = (.ok (), (op.ground s).putAll entries) := by
  cases h with
  | clear => rfl
  | collect => rfl
  | load hr hs =>
    rw [apply, action, ofDocument_of_scalarArrays hr hs]
    rfl
  | overlay hr hs =>
    rw [apply, action, ofDocument_of_scalarArrays hr hs]
    exact congrArg (Prod.mk _) (Store.merge_ofList s _)
  | insert key value =>
    rw [apply, action, ← fullKey_eq]
    rfl
  | assign hw =>
    obtain ⟨key, value, hp, hkey, hvalue⟩ := hw
    rw [apply, action, readAssignment_of_parts hp, hkey, hvalue, ← fullKey_eq]
    rfl
  | merge => rfl

theorem ofDocument_of_fails {text : String} (h : (load text).Fails) :
    ∃ e, Store.ofDocument text = .error e := by
  rcases h with hr | ⟨table, hr, hs⟩
  · exact ⟨.malformed text, by rw [Store.ofDocument, hr]⟩
  · obtain ⟨e, he⟩ := Toml.flatten_of_not_scalarArrays hs
    exact ⟨.flatten e, (Toml.ofDocument_of_flatten hr he).1⟩

/-- An operation that fails does so before it changes anything. -/
theorem apply_of_fails (h : op.Fails) (s : Store) : ∃ e, op.apply s = (.error e, s) := by
  cases op with
  | load text =>
    obtain ⟨e, he⟩ := ofDocument_of_fails h
    exact ⟨.document e, (apply_of_document_error he s).1⟩
  | overlay text =>
    obtain ⟨e, he⟩ := ofDocument_of_fails h
    exact ⟨.document e, (apply_of_document_error he s).2⟩
  | assign text =>
    exact ⟨.assignment (flaw text), by rw [apply, action, readAssignment_of_not_wellFormed h]; rfl⟩
  | clear => exact h.elim
  | collect => exact h.elim
  | insert => exact h.elim
  | merge => exact h.elim

/-- A document gives no options, or its leaves are written. -/
theorem fails_load_or_scalarArrays (text : String) :
    (load text).Fails ∨ ∃ table, read? text = some table ∧ ScalarArrays table := by
  cases hr : read? text with
  | none => exact .inl (.inl hr)
  | some table =>
    by_cases hs : ScalarArrays table
    · exact .inr ⟨table, rfl, hs⟩
    · exact .inl (.inr ⟨table, hr, hs⟩)

/-- Every operation fails or writes. -/
theorem fails_or_puts (op : Operation) : op.Fails ∨ ∃ entries, op.Puts entries := by
  cases op with
  | load text =>
    rcases fails_load_or_scalarArrays text with h | ⟨table, hr, hs⟩
    · exact .inl h
    · exact .inr ⟨_, .load hr hs⟩
  | overlay text =>
    rcases fails_load_or_scalarArrays text with h | ⟨table, hr, hs⟩
    · exact .inl h
    · exact .inr ⟨_, .overlay hr hs⟩
  | assign text =>
    by_cases hw : WellFormed text
    · obtain ⟨key, value, h⟩ := (wellFormed_iff_writes text).1 hw
      exact .inr ⟨_, .assign h⟩
    · exact .inl hw
  | clear => exact .inr ⟨_, .clear⟩
  | collect entries => exact .inr ⟨_, .collect entries⟩
  | insert key value => exact .inr ⟨_, .insert key value⟩
  | merge other => exact .inr ⟨_, .merge other⟩

theorem fails_iff (op : Operation) (s : Store) : op.Fails ↔ ∃ e, (op.apply s).1 = .error e := by
  refine ⟨fun h => (apply_of_fails h s).imp fun e he => congrArg Prod.fst he, ?_⟩
  rintro ⟨e, he⟩
  rcases fails_or_puts op with h | ⟨entries, h⟩
  · exact h
  · rw [apply_of_puts h] at he
    cases he

theorem Fails.not_puts (h : op.Fails) : ¬ op.Puts entries := by
  intro hp
  obtain ⟨e, he⟩ := apply_of_fails h .empty
  rw [apply_of_puts hp] at he
  cases he

theorem exists_puts_iff (op : Operation) (s : Store) :
    (∃ entries, op.Puts entries) ↔ (op.apply s).1 = .ok () := by
  refine ⟨fun ⟨entries, h⟩ => congrArg Prod.fst (apply_of_puts h s), fun ht => ?_⟩
  rcases fails_or_puts op with h | h
  · obtain ⟨e, he⟩ := apply_of_fails h s
    rw [he] at ht
    cases ht
  · exact h

theorem step_of_fails (h : op.Fails) (s : Store) : op.step s = s := by
  obtain ⟨e, he⟩ := apply_of_fails h s
  rw [step, he]

/-- After an operation that writes, a key has what was last written to it, and else what it had unless
the store started anew. -/
theorem get?_step_of_puts (h : op.Puts entries) (s : Store) (key : String) :
    (op.step s).get? key =
      ((Store.ofList entries).get? key).or (if op.replaces then none else s.get? key) := by
  rw [step, apply_of_puts h]
  refine (Store.get?_putAll _ entries key).trans ?_
  rw [ground]
  split <;> rfl

end Operation

/-- The latest write to a key: the last entry under it that was written by an operation after which no
other one wrote to the key or started anew. Operations that fail do not count. -/
def LatestWrite (ops : List Operation) (key value : String) : Prop :=
  ∃ before op later entries, ops = before ++ op :: later ∧ op.Puts entries ∧
    LastEntry entries key value ∧
    ∀ o ∈ later, ∀ es, o.Puts es → o.replaces = false ∧ ∀ e ∈ es, e.1 ≠ key

/-- Since the store last started anew no operation wrote to a key. -/
def Unwritten (ops : List Operation) (key : String) : Prop :=
  ∀ before op later entries, ops = before ++ op :: later → op.Puts entries →
    (∀ o ∈ later, ∀ es, o.Puts es → o.replaces = false) → ∀ e ∈ entries, e.1 ≠ key

private theorem eq_of_snoc_eq {ops before later : List Operation} {op o : Operation}
    (h : ops ++ [op] = before ++ o :: later) :
    later = [] ∧ before = ops ∧ o = op ∨ ∃ rest, later = rest ++ [op] ∧ ops = before ++ o :: rest := by
  rcases List.eq_nil_or_concat later with rfl | ⟨rest, l, rfl⟩
  · obtain ⟨rfl, ⟨⟩⟩ := List.append_inj' h rfl
    exact .inl ⟨rfl, rfl, rfl⟩
  · rw [List.concat_eq_append, ← List.cons_append, ← List.append_assoc] at h
    obtain ⟨rfl, ⟨⟩⟩ := List.append_inj' h rfl
    exact .inr ⟨rest, List.concat_eq_append, rfl⟩

/-- The latest write is that of the last operation, or an earlier one that it leaves standing. -/
theorem latestWrite_snoc_iff (ops : List Operation) (op : Operation) (key value : String) :
    LatestWrite (ops ++ [op]) key value ↔
      (∃ entries, op.Puts entries ∧ LastEntry entries key value) ∨
      LatestWrite ops key value ∧
        ∀ es, op.Puts es → op.replaces = false ∧ ∀ e ∈ es, e.1 ≠ key := by
  constructor
  · rintro ⟨before, o, later, entries, heq, hp, hlast, hlater⟩
    rcases eq_of_snoc_eq heq with ⟨rfl, rfl, rfl⟩ | ⟨rest, rfl, rfl⟩
    · exact .inl ⟨entries, hp, hlast⟩
    · rw [List.forall_mem_append, List.forall_mem_singleton] at hlater
      exact .inr ⟨⟨before, o, rest, entries, rfl, hp, hlast, hlater.1⟩, hlater.2⟩
  · rintro (⟨entries, hp, hlast⟩ | ⟨⟨before, o, later, entries, rfl, hp, hlast, hlater⟩, hop⟩)
    · exact ⟨ops, op, [], entries, rfl, hp, hlast, nofun⟩
    · refine ⟨before, o, later ++ [op], entries, by simp, hp, hlast, ?_⟩
      rw [List.forall_mem_append, List.forall_mem_singleton]
      exact ⟨hlater, hop⟩

theorem unwritten_snoc_iff (ops : List Operation) (op : Operation) (key : String) :
    Unwritten (ops ++ [op]) key ↔
      (∀ es, op.Puts es → ∀ e ∈ es, e.1 ≠ key) ∧
      ((∀ es, op.Puts es → op.replaces = false) → Unwritten ops key) := by
  constructor
  · intro h
    refine ⟨fun es hp => h ops op [] es rfl hp nofun, ?_⟩
    intro hop before o later entries heq hp hlater
    refine h before o (later ++ [op]) entries (by simp [heq]) hp ?_
    rw [List.forall_mem_append, List.forall_mem_singleton]
    exact ⟨hlater, hop⟩
  · rintro ⟨hop, hops⟩ before o later entries heq hp hlater
    rcases eq_of_snoc_eq heq with ⟨rfl, rfl, rfl⟩ | ⟨rest, rfl, rfl⟩
    · exact hop entries hp
    · rw [List.forall_mem_append, List.forall_mem_singleton] at hlater
      exact hops hlater.2 before o rest entries rfl hp hlater.1

namespace Store

theorem after_snoc (ops : List Operation) (op : Operation) :
    after (ops ++ [op]) = op.step (after ops) := by
  rw [after, List.foldl_append]
  rfl

/-- What one operation does to the values of a key is what it does to the latest writes. -/
theorem get?_after_snoc {ops : List Operation} {key : String}
    (hsome : ∀ value, (after ops).get? key = some value ↔ LatestWrite ops key value)
    (hnone : (after ops).get? key = none ↔ Unwritten ops key) (op : Operation) :
    (∀ value, (after (ops ++ [op])).get? key = some value ↔ LatestWrite (ops ++ [op]) key value) ∧
      ((after (ops ++ [op])).get? key = none ↔ Unwritten (ops ++ [op]) key) := by
  rw [after_snoc, unwritten_snoc_iff]
  simp only [latestWrite_snoc_iff]
  rcases op.fails_or_puts with hf | ⟨entries, hp⟩
  · have hno (es : List Entry) : ¬ op.Puts es := hf.not_puts
    rw [Operation.step_of_fails hf]
    simp [hno, hsome, hnone]
  · have hone {P : List Entry → Prop} : (∀ es, op.Puts es → P es) ↔ P entries :=
      ⟨fun h => h entries hp, fun h es hes => hp.unique hes ▸ h⟩
    have hsame {P : List Entry → Prop} : (∃ es, op.Puts es ∧ P es) ↔ P entries :=
      ⟨fun ⟨es, hes, h⟩ => hp.unique hes ▸ h, fun h => ⟨entries, hp, h⟩⟩
    simp only [hone, hsame, Operation.get?_step_of_puts hp, Option.or_eq_some_iff,
      Option.or_eq_none_iff, get?_ofList_eq_some_iff, get?_ofList_eq_none_iff]
    cases hr : op.replaces with
    | true => simp
    | false => simp [hsome, hnone, and_comm]

theorem get?_after (ops : List Operation) (key : String) :
    (∀ value, (after ops).get? key = some value ↔ LatestWrite ops key value) ∧
      ((after ops).get? key = none ↔ Unwritten ops key) := by
  induction ops using List.reverseRecOn with
  | nil => simp [after, LatestWrite, Unwritten]
  | append_singleton ops op ih => exact get?_after_snoc ih.1 ih.2 op

/-- A store after any operations from the one without options. Its entries ascend strictly in byte order
of their keys, one for each key; a key has the value of the latest write to it, and none if since the
store last started anew there was no write to it; it is empty exactly if no key has a value; and the
operations that fail are those given by `Fails`, which leave all entries as they are. -/
theorem after_history (ops : List Operation) :
    ((after ops).entries.Pairwise fun a b => Text.bytes a.1 < Text.bytes b.1) ∧
    ((after ops).entries.map Prod.fst).Nodup ∧
    (∀ key value, (after ops).get? key = some value ↔ LatestWrite ops key value) ∧
    (∀ key, (after ops).get? key = none ↔ Unwritten ops key) ∧
    ((after ops).isEmpty = true ↔ ∀ key, (after ops).get? key = none) ∧
    ∀ op : Operation,
      ((op.apply (after ops)).1 = .ok () ↔ ∃ entries, op.Puts entries) ∧
      ((∃ e, (op.apply (after ops)).1 = .error e) ↔ op.Fails) ∧
      (op.Fails → (after (ops ++ [op])).entries = (after ops).entries) := by
  refine ⟨?_, keys_nodup _, fun key => (get?_after ops key).1, fun key => (get?_after ops key).2,
    isEmpty_iff _, fun op => ⟨?_, ?_, ?_⟩⟩
  · exact (after ops).ascending.imp fun h => (Text.lt_iff_bytes_lt _ _).1 h
  · exact (op.exists_puts_iff _).symm
  · exact (op.fails_iff _).symm
  · intro hf
    rw [after_snoc, Operation.step_of_fails hf]

/-- A text that is no assignment leaves what was collected and inserted before. -/
theorem after_history_failed_assignment :
    let ops : List Operation := [.collect [("b", "1"), ("a", "2")], .insert " x " "3"]
    let op : Operation := .assign "b"
    op.Fails ∧ (after (ops ++ [op])).entries = [("a", "2"), ("b", "1"), ("region_ruler.x", "3")] := by
  intro ops op
  have hop := (after_history ops).2.2.2.2.2 op
  have hf : op.Fails := hop.2.1.1 ⟨.assignment (.noEquals "b"), rfl⟩
  have hops : (after ops).entries = [("a", "2"), ("b", "1"), ("region_ruler.x", "3")] := by decide
  exact ⟨hf, (hop.2.2 hf).trans hops⟩

end Store

end RegionNaming.Options
