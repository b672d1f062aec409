import Mathlib.Data.List.Dedup
import RegionNaming.Proofs.Store
import RegionNaming.Proofs.TableOrder
import RegionNaming.Toml.Flatten

/-! Flattening as a walk over the leaves of a table: each leaf writes its text under the dotted key of
its path, in the order of the walk, and the last write to a key counts. -/

namespace RegionNaming.Toml

open Options

abbrev Leaf := List String × Value

mutual

def Value.leaves : Value → List Leaf
  | .table entries => tableLeaves entries
  | v => [([], v)]

/-- The leaves of the entries of a table. The walk takes entry after entry, and goes through tables
only. -/
def tableLeaves : List (String × Value) → List Leaf
  | [] => []
  | (key, value) :: rest => value.leaves.map (fun l => (key :: l.1, l.2)) ++ tableLeaves rest

end

/-- The keys of a path with dots between them, without the empty keys at its front. -/
def dottedKey (path : List String) : String := String.intercalate "." (path.dropWhile (· = ""))

def Value.IsScalar : Value → Prop
  | .array _ | .table _ => False
  | _ => True

/-- Every array reached through tables holds scalars only. -/
def ScalarArrays (table : List (String × Value)) : Prop :=
  ∀ path items, (path, .array items) ∈ tableLeaves table → ∀ item ∈ items, item.IsScalar

/-- The text of a leaf: that of a scalar, or those of the items of an array with semicolons between
them. -/
def Value.text : Value → String
  | .array items => String.intercalate ";" (items.map fun item => item.scalarText?.getD "")
  | v => v.scalarText?.getD ""

mutual

/-- A value without the empty tables in it, and without those that hold nothing else. -/
def Value.withoutEmpty : Value → Value
  | .table entries => .table (dropEmpty entries)
  | v => v

def dropEmpty : List (String × Value) → List (String × Value)
  | [] => []
  | (key, value) :: rest =>
    match value.withoutEmpty with
    | .table [] => dropEmpty rest
    | v => (key, v) :: dropEmpty rest

end

def leafEntry (leaf : Leaf) : Entry := (dottedKey leaf.1, leaf.2.text)

/-- One path is walked before another: where they part, its key comes first in byte order. -/
def Precedes (p q : List String) : Prop :=
  ∃ shared a b p' q', p = shared ++ a :: p' ∧ q = shared ++ b :: q' ∧ Text.bytes a < Text.bytes b

/-- What a leaf below `path` gives: an option, or the failure of an array that is not flat. -/
def leafOption (path : String) (leaf : Leaf) : Except FlattenError Entry :=
  let key := leaf.1.foldl joinKey path
  match leaf.2 with
  | .array items =>
    match arrayText? items with
    | some text => .ok (key, text)
    | none => .error (.unsupportedItem key)
  | v => .ok (key, v.text)

mutual

theorem Value.options_eq_mapM (path : String) (v : Value) :
    v.options path = v.leaves.mapM (leafOption path) := by
  cases v with
  | table entries =>
    rw [Value.options, Value.leaves]
    exact tableOptions_eq_mapM path entries
  | array items =>
    simp only [Value.options, Value.leaves, List.mapM_cons, List.mapM_nil, leafOption]
    cases arrayText? items <;> rfl
  | string s => rfl
  | boolean b => rfl
  | integer n => rfl
  | float x => rfl
  | dateTime d => rfl

theorem tableOptions_eq_mapM (path : String) (entries : List (String × Value)) :
    tableOptions path entries = (tableLeaves entries).mapM (leafOption path) := by
  cases entries with
  | nil => rfl
  | cons e rest =>
    obtain ⟨key, value⟩ := e
    have hkey : leafOption path ∘ (fun l => (key :: l.1, l.2)) = leafOption (joinKey path key) := rfl
    rw [tableOptions, tableLeaves, List.mapM_append, List.mapM_map, hkey,
      Value.options_eq_mapM (joinKey path key) value, tableOptions_eq_mapM path rest]
    cases value.leaves.mapM (leafOption (joinKey path key)) with
    | error e => rfl
    | ok first => cases (tableLeaves rest).mapM (leafOption path) <;> rfl

end

theorem foldl_joinKey_of_ne_empty (path : List String) {key : String} (h : key ≠ "") :
    path.foldl joinKey key = String.intercalate "." (key :: path) := by
  induction path generalizing key with
  | nil => simp
  | cons k path ih =>
    have hne : key ++ "." ++ k ≠ "" := by simp
    rw [List.foldl_cons, joinKey, if_neg h, ih hne, String.intercalate_cons_cons]
    cases path with
    | nil => simp
    | cons l path =>
      rw [String.intercalate_cons_cons, String.intercalate_cons_cons]
      simp [String.append_assoc]

/-- The keys on a path are joined to its dotted key. -/
theorem foldl_joinKey (path : List String) : path.foldl joinKey "" = dottedKey path := by
  induction path with
  | nil => rfl
  | cons key path ih =>
    rw [List.foldl_cons, joinKey, if_pos rfl, dottedKey]
    by_cases hk : key = ""
    · rw [List.dropWhile_cons_of_pos (by simpa using hk), hk]
      exact ih
    · rw [List.dropWhile_cons_of_neg (by simpa using hk)]
      exact foldl_joinKey_of_ne_empty path hk

theorem isScalar_iff (v : Value) : v.IsScalar ↔ ∃ text, v.scalarText? = some text := by
  cases v <;> simp [Value.IsScalar, Value.scalarText?]

/-- An array of scalars has a text. -/
theorem arrayText?_of_isScalar {items : List Value} (h : ∀ item ∈ items, item.IsScalar) :
    arrayText? items = some (Value.array items).text := by
  have hm : items.mapM Value.scalarText? = some (items.map fun item => item.scalarText?.getD "") := by
    induction items with
    | nil => rfl
    | cons item rest ih =>
      obtain ⟨hi, hrest⟩ := List.forall_mem_cons.1 h
      obtain ⟨text, ht⟩ := (isScalar_iff item).1 hi
      rw [List.mapM_cons, ht, ih hrest, List.map_cons, ht]
      rfl
  rw [arrayText?, hm]
  rfl

/-- The text of an array has the texts of its items with semicolons between them. -/
theorem text_array {values : List Value} {texts : List String}
    (h : values.map Value.scalarText? = texts.map some) :
    (Value.array values).text = String.intercalate ";" texts := by
  have hitems : (values.map fun item => item.scalarText?.getD "") = texts := by
    calc values.map (fun item => item.scalarText?.getD "")
      _ = (values.map Value.scalarText?).map (·.getD "") := by rw [List.map_map]; rfl
      _ = texts := by rw [h, List.map_map]; exact List.map_id texts
  rw [Value.text, hitems]

/-- A leaf writes its text, unless it is an array that holds more than scalars. -/
theorem leafOption_eq_ok {leaf : Leaf}
    (h : ∀ items, leaf.2 = .array items → ∀ item ∈ items, item.IsScalar) :
    leafOption "" leaf = .ok (leafEntry leaf) := by
  obtain ⟨path, v⟩ := leaf
  rw [leafOption, leafEntry, ← foldl_joinKey]
  cases v with
  | array items => simp only [arrayText?_of_isScalar (h items rfl)]
  | _ => rfl

theorem mapM_eq_ok_map {α β ε : Type} {f : α → Except ε β} {g : α → β} {xs : List α}
    (h : ∀ x ∈ xs, f x = .ok (g x)) : xs.mapM f = .ok (xs.map g) := by
  induction xs with
  | nil => rfl
  | cons x xs ih =>
    obtain ⟨hx, hxs⟩ := List.forall_mem_cons.1 h
    rw [List.mapM_cons, hx, ih hxs]
    rfl

theorem flatten_of_scalarArrays {table : List (String × Value)} (h : ScalarArrays table) :
    flatten table = .ok (Store.ofList ((tableLeaves table).map leafEntry)) := by
  have hl : ∀ leaf ∈ tableLeaves table, leafOption "" leaf = .ok (leafEntry leaf) := by
    rintro ⟨path, v⟩ hm
    refine leafOption_eq_ok ?_
    rintro items rfl
    exact h path items hm
  rw [flatten, tableOptions_eq_mapM, mapM_eq_ok_map hl]
  rfl

theorem tableLeaves_eq_flatMap (entries : List (String × Value)) :
    tableLeaves entries = entries.flatMap fun e => e.2.leaves.map fun l => (e.1 :: l.1, l.2) := by
  induction entries with
  | nil => simp [tableLeaves]
  | cons e rest ih => rw [tableLeaves, ih, List.flatMap_cons]

/-- In a table whose keys ascend, the leaves are walked in byte order of the keys on their paths. -/
theorem pairwise_precedes_leaves {table : List (String × Value)} (h : KeysAscend table) :
    (tableLeaves table).Pairwise fun a b => Precedes a.1 b.1 := by
  induction h with
  | intro keys _ ih =>
    rw [tableLeaves_eq_flatMap, List.pairwise_flatMap]
    constructor
    · rintro ⟨key, v⟩ hm
      have hv : v.leaves.Pairwise fun a b => Precedes a.1 b.1 := by
        cases v with
        | table inner => exact ih key inner hm
        | _ => exact List.pairwise_singleton _ _
      refine hv.map _ ?_
      rintro a b ⟨shared, c, d, p, q, hp, hq, hcd⟩
      exact ⟨key :: shared, c, d, p, q, by rw [hp]; rfl, by rw [hq]; rfl, hcd⟩
    · refine keys.imp ?_
      intro a b hab x hx y hy
      obtain ⟨l, _, rfl⟩ := List.mem_map.1 hx
      obtain ⟨m, _, rfl⟩ := List.mem_map.1 hy
      exact ⟨[], a.1, b.1, l.1, m.1, rfl, rfl, hab⟩

mutual

theorem Value.leaves_withoutEmpty (v : Value) : v.withoutEmpty.leaves = v.leaves := by
  cases v with
  | table entries =>
    rw [Value.withoutEmpty, Value.leaves, Value.leaves]
    exact tableLeaves_dropEmpty entries
  | _ => rfl

theorem tableLeaves_dropEmpty (entries : List (String × Value)) :
    tableLeaves (dropEmpty entries) = tableLeaves entries := by
  cases entries with
  | nil => rw [dropEmpty]
  | cons e rest =>
    obtain ⟨key, value⟩ := e
    have hv := Value.leaves_withoutEmpty value
    have hr := tableLeaves_dropEmpty rest
    rw [dropEmpty, tableLeaves, ← hv]
    split
    case h_1 he => rw [he, hr, Value.leaves, tableLeaves, List.map_nil, List.nil_append]
    case h_2 => rw [tableLeaves, hr]

end

theorem lastEntry_leaves_iff (leaves : List Leaf) (key value : String) :
    LastEntry (leaves.map leafEntry) key value ↔
      ∃ before leaf later, leaves = before ++ leaf :: later ∧ dottedKey leaf.1 = key ∧
        leaf.2.text = value ∧ ∀ l ∈ later, dottedKey l.1 ≠ key := by
  constructor
  · rintro ⟨_, _, heq, hl⟩
    obtain ⟨before, _, rfl, rfl, hrest⟩ := List.map_eq_append_iff.1 heq
    obtain ⟨leaf, later, rfl, he, rfl⟩ := List.map_eq_cons_iff.1 hrest
    obtain ⟨hk, hv⟩ := Prod.mk.inj he
    exact ⟨before, leaf, later, rfl, hk, hv, fun l hm => hl _ (List.mem_map_of_mem hm)⟩
  · rintro ⟨before, leaf, later, rfl, rfl, rfl, hl⟩
    refine ⟨before.map leafEntry, later.map leafEntry, by simp [leafEntry], ?_⟩
    intro e he
    obtain ⟨l, hm, rfl⟩ := List.mem_map.1 he
    exact hl l hm

end RegionNaming.Toml
