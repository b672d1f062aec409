import RegionNaming.Options.History
import RegionNaming.Proofs.Flattening

/-! When a table gives no options, and what is said of it. Only an array in which an array or a table
stands has no text. The first such array of the walk is named by its dotted key, and nothing that was
written before it is kept. -/

namespace RegionNaming.Toml

open Options

def Value.Nested (v : Value) : Prop :=
  ∃ items, v = .array items ∧
    ∃ item ∈ items, (∃ inner, item = .array inner) ∨ ∃ entries, item = .table entries

def FirstNested (leaves : List Leaf) (leaf : Leaf) : Prop :=
  ∃ before later, leaves = before ++ leaf :: later ∧ (∀ l ∈ before, ¬ l.2.Nested) ∧ leaf.2.Nested

theorem not_isScalar_iff (v : Value) :
    ¬ v.IsScalar ↔ (∃ inner, v = .array inner) ∨ ∃ entries, v = .table entries := by
  cases v <;> simp [Value.IsScalar]

theorem not_nested_iff (v : Value) :
    ¬ v.Nested ↔ ∀ items, v = .array items → ∀ item ∈ items, item.IsScalar := by
  simp only [Value.Nested, ← not_isScalar_iff]
  grind

theorem scalarArrays_iff (table : List (String × Value)) :
    ScalarArrays table ↔ ∀ leaf ∈ tableLeaves table, ¬ leaf.2.Nested := by
  simp only [ScalarArrays, not_nested_iff]
  grind

/-- An array with an item that is no scalar has no text. -/
theorem arrayText?_of_not_isScalar {items : List Value} {item : Value} (hm : item ∈ items)
    (h : ¬ item.IsScalar) : arrayText? items = none := by
  have hnone : items.mapM Value.scalarText? = none := by
    induction items with
    | nil => cases hm
    | cons first rest ih =>
      rw [List.mapM_cons]
      rcases List.mem_cons.1 hm with rfl | hm
      · rw [Option.eq_none_iff_forall_ne_some.2 fun text ht => h ((isScalar_iff item).2 ⟨text, ht⟩)]
        rfl
      · rw [ih hm]
        cases first.scalarText? <;> rfl
  rw [arrayText?, hnone]
  rfl

/-- A nested array fails under the dotted key of its path. -/
theorem leafOption_of_nested {leaf : Leaf} (h : leaf.2.Nested) :
    leafOption "" leaf = .error (.unsupportedItem (dottedKey leaf.1)) := by
  obtain ⟨path, v⟩ := leaf
  obtain ⟨items, rfl, item, hm, hitem⟩ := h
  have hnone : arrayText? items = none :=
    arrayText?_of_not_isScalar hm ((not_isScalar_iff item).2 hitem)
  simp only [leafOption, hnone, foldl_joinKey]

theorem flatten_of_firstNested {table : List (String × Value)} {leaf : Leaf}
    (h : FirstNested (tableLeaves table) leaf) :
    flatten table = .error (.unsupportedItem (dottedKey leaf.1)) := by
  obtain ⟨before, later, hleaves, hbefore, hleaf⟩ := h
  have hwritten : before.mapM (leafOption "") = .ok (before.map leafEntry) :=
    mapM_eq_ok_map fun l hl => leafOption_eq_ok ((not_nested_iff l.2).1 (hbefore l hl))
  rw [flatten, tableOptions_eq_mapM, hleaves, List.mapM_append, hwritten, List.mapM_cons,
    leafOption_of_nested hleaf]
  rfl

theorem scalarArrays_or_firstNested (table : List (String × Value)) :
    ScalarArrays table ∨ ∃ leaf, FirstNested (tableLeaves table) leaf := by
  classical
  cases hfind : (tableLeaves table).find? (fun leaf => decide leaf.2.Nested) with
  | none => exact .inl ((scalarArrays_iff table).2 (by simpa using hfind))
  | some leaf =>
    obtain ⟨hleaf, before, later, hleaves, hbefore⟩ := List.find?_eq_some_iff_append.1 hfind
    exact .inr ⟨leaf, before, later, hleaves, by simpa using hbefore, by simpa using hleaf⟩

theorem flatten_of_not_scalarArrays {table : List (String × Value)} (h : ¬ ScalarArrays table) :
    ∃ e, flatten table = .error e := by
  obtain ⟨leaf, hleaf⟩ := (scalarArrays_or_firstNested table).resolve_left h
  exact ⟨_, flatten_of_firstNested hleaf⟩

/-- A table that cannot be flattened fails with the key of its first nested array. -/
theorem firstNested_of_flatten {table : List (String × Value)} {e : FlattenError}
    (h : flatten table = .error e) :
    ∃ leaf, FirstNested (tableLeaves table) leaf ∧ e = .unsupportedItem (dottedKey leaf.1) := by
  rcases scalarArrays_or_firstNested table with hs | ⟨leaf, hleaf⟩
  · rw [flatten_of_scalarArrays hs] at h
    cases h
  · rw [flatten_of_firstNested hleaf] at h
    exact ⟨leaf, hleaf, (Except.error.inj h).symm⟩

/-- A document whose table cannot be flattened gives no store, and leaves every store as it was. -/
theorem ofDocument_of_flatten {text : String} {table : List (String × Value)} {e : FlattenError}
    (hr : read? text = some table) (h : flatten table = .error e) :
    Store.ofDocument text = .error (.flatten e) ∧
      ∀ s : Store, (Operation.load text).step s = s ∧ (Operation.overlay text).step s = s := by
  have hdoc : Store.ofDocument text = .error (.flatten e) := by
    rw [Store.ofDocument, hr]
    simp only [h]
    rfl
  refine ⟨hdoc, fun s => ?_⟩
  obtain ⟨hload, hoverlay⟩ := Operation.apply_of_document_error hdoc s
  rw [Operation.step, Operation.step, hload, hoverlay]
  exact ⟨rfl, rfl⟩

/-- When flattening fails. The tables of a document are in byte order of their keys, and in any such table
the leaves are walked in byte order. Flattening a table fails exactly if one of its leaves is an array in
which an array or a table stands; it is then the first such leaf of the walk whose dotted key the error
names, and no table has a value that is unsupported by itself. A document that fails in this way gives no
store and leaves every store as it was. -/
theorem flatten_failure :
    (∀ text table, read? text = some table → KeysAscend table) ∧
    ∀ table, (KeysAscend table → (tableLeaves table).Pairwise fun a b => Precedes a.1 b.1) ∧
      ((∃ e, flatten table = .error e) ↔ ∃ leaf ∈ tableLeaves table, leaf.2.Nested) ∧
      (∀ e, flatten table = .error e → ∃ leaf, FirstNested (tableLeaves table) leaf ∧
        e = .unsupportedItem (dottedKey leaf.1) ∧
        String.intercalate ": " e.messages =
          "Unsupported array item in '" ++ dottedKey leaf.1 ++ "': expected a scalar value") ∧
      (∀ key, flatten table ≠ .error (.unsupportedValue key)) ∧
      ∀ text e, read? text = some table → flatten table = .error e →
        Store.ofDocument text = .error (.flatten e) ∧
        ∀ s : Store, (Operation.load text).step s = s ∧ (Operation.overlay text).step s = s := by
  refine ⟨fun text table h => keysAscend_read? h, fun table => ⟨pairwise_precedes_leaves, ?_, ?_, ?_, ?_⟩⟩
  · constructor
    · rintro ⟨e, he⟩
      obtain ⟨leaf, ⟨before, later, hleaves, _, hleaf⟩, _⟩ := firstNested_of_flatten he
      exact ⟨leaf, by simp [hleaves], hleaf⟩
    · rintro ⟨leaf, hm, hleaf⟩
      exact flatten_of_not_scalarArrays fun hs => (scalarArrays_iff table).1 hs leaf hm hleaf
  · intro e he
    obtain ⟨leaf, hfirst, rfl⟩ := firstNested_of_flatten he
    refine ⟨leaf, hfirst, rfl, ?_⟩
    simp [FlattenError.messages, String.append_assoc]
  · intro key he
    obtain ⟨leaf, _, hkey⟩ := firstNested_of_flatten he
    cases hkey
  · intro text e hr he
    exact ofDocument_of_flatten hr he

/-- Two nested arrays with a flat one between them. The second one, an array of tables, comes first in byte
order. -/
theorem flatten_failure_second_section :
    let text := "'z' = [['x']]\n'b' = ['y']\n[['a'.'v']]"
    let table : List (String × Value) := [("a", .table [("v", .array [.table []])]),
      ("b", .array [.string "y"]), ("z", .array [.array [.string "x"]])]
    read? text = some table ∧ (∃ leaf ∈ tableLeaves table, leaf.2.Nested) ∧
      ∃ e, flatten table = .error e ∧
        String.intercalate ": " e.messages = "Unsupported array item in 'a.v': expected a scalar value" ∧
        ∀ s : Store, (Operation.load text).step s = s ∧ (Operation.overlay text).step s = s := by
  intro text table
  have hreads : read? text = some table := by decide +kernel
  have hnested : ∃ leaf ∈ tableLeaves table, leaf.2.Nested :=
    ⟨(["a", "v"], .array [.table []]), .head _, _, rfl, _, .head _, .inr ⟨_, rfl⟩⟩
  obtain ⟨_, hfails, _, _, hdocument⟩ := flatten_failure.2 table
  obtain ⟨e, he⟩ := hfails.2 hnested
  have hkey : e = .unsupportedItem "a.v" := by
    have hrun : flatten table = .error (.unsupportedItem "a.v") := by decide +kernel
    exact Except.error.inj (he.symm.trans hrun)
  exact ⟨hreads, hnested, e, he, by rw [hkey]; decide, (hdocument text e hreads he).2⟩

end RegionNaming.Toml
