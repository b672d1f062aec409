import RegionNaming.Proofs.OptionVerdicts
import RegionNaming.Proofs.StoreHistory

/-! Patterns from an array of a document. The array becomes one text with semicolons between its items, and
that text is cut again at every delimiter, so the patterns are the parts of the items that compile. They
are the items themselves exactly if no item holds a delimiter. -/

namespace RegionNaming

open Options Toml

/-- A document whose only value for the option of patterns is an array of texts, and whose arrays hold
scalars only. -/
structure PatternArray (text : String) (table : List (String × Value)) (texts : List String) : Prop where
  reads : read? text = some table
  scalars : ScalarArrays table
  only : ∃ path, (tableLeaves table).filter (fun leaf => dottedKey leaf.1 = allowedPatternsKey) =
    [(path, .array (texts.map .string))]

theorem text_array_strings (texts : List String) :
    (Value.array (texts.map .string)).text = String.intercalate ";" texts := by
  apply text_array
  rw [List.map_map]
  rfl

def patternTable (texts : List String) : List (String × Value) :=
  [("region_ruler", .table [("allowed_regex_pattern", .array (texts.map .string))])]

namespace PatternArray

theorem of_patternTable {text : String} {texts : List String}
    (h : read? text = some (patternTable texts)) : PatternArray text (patternTable texts) texts := by
  refine ⟨h, ?_, ["region_ruler", "allowed_regex_pattern"], rfl⟩
  intro path items hm item hi
  have hleaf : (path, Value.array items) =
      (["region_ruler", "allowed_regex_pattern"], .array (texts.map .string)) := by
    simpa [patternTable, tableLeaves, Value.leaves] using hm
  cases hleaf
  obtain ⟨t, _, rfl⟩ := List.mem_map.1 hi
  trivial

variable {text : String} {table : List (String × Value)} {texts : List String}
  (h : PatternArray text table texts)
include h

/-- The option of patterns has the items of the array with semicolons between them. -/
theorem get?_eq :
    (Store.ofList ((tableLeaves table).map leafEntry)).get? allowedPatternsKey =
      some (String.intercalate ";" texts) := by
  obtain ⟨path, hfilter⟩ := h.only
  obtain ⟨before, later, hleaves, _, hkey, hlater⟩ := List.filter_eq_cons_iff.1 hfilter
  rw [Store.get?_ofList_eq_some_iff, lastEntry_leaves_iff]
  refine ⟨before, _, later, hleaves, of_decide_eq_true hkey, text_array_strings texts, ?_⟩
  intro leaf hm
  exact of_decide_eq_false (Bool.eq_false_iff.2 (List.filter_eq_nil_iff.1 hlater leaf hm))

/-- The document is taken, and its patterns are the parts of the items that compile. -/
theorem sources :
    ∃ store, Store.ofDocument text = .ok store ∧
      (Policy.ofLookup store.get?).patterns.map NamePattern.source =
        (texts.flatMap items).filter fun source =>
          (NamePattern.compile source (Policy.ofLookup store.get?).caseSensitive).toOption.isSome := by
  refine ⟨_, Operation.ofDocument_of_scalarArrays h.reads h.scalars, ?_⟩
  rw [Policy.sources_ofLookup, listed_eq_items, h.get?_eq, Option.map_some, Option.getD_some,
    items_intercalate]

end PatternArray

/-- Items that are not blank and that compile are the patterns of a document exactly if no item holds a
delimiter. In any case the patterns are the parts of the items that compile, in order. -/
theorem patternArray_kept_iff {text : String} {table : List (String × Value)} {texts : List String}
    (h : PatternArray text table texts) :
    ∃ store, Store.ofDocument text = .ok store ∧
      let policy := Policy.ofLookup store.get?
      let compiles := fun source => (NamePattern.compile source policy.caseSensitive).toOption.isSome
      policy.patterns.map NamePattern.source = (texts.flatMap items).filter compiles ∧
      ((∀ t ∈ texts, Text.trim t ≠ "" ∧ compiles (Text.trim t) = true) →
        (policy.patterns.map NamePattern.source = texts.map Text.trim ↔
          ∀ t ∈ texts, ',' ∉ t.toList ∧ ';' ∉ t.toList)) := by
  obtain ⟨store, hstore, hsources⟩ := h.sources
  refine ⟨store, hstore, hsources, fun hgood => ?_⟩
  rw [hsources]
  simp only [← not_delimiter_iff]
  constructor
  · intro heq t ht
    have hmem : Text.trim t ∈ texts.map Text.trim := List.mem_map_of_mem ht
    rw [← heq] at hmem
    obtain ⟨u, _, hitem⟩ := List.mem_flatMap.1 (List.mem_filter.1 hmem).1
    exact not_delimiter_of_trim (not_delimiter_of_mem_items hitem)
  · intro hd
    rw [flatMap_items_eq_map_trim (fun t ht => (hgood t ht).1) hd, List.filter_eq_self]
    intro source hs
    obtain ⟨t, ht, rfl⟩ := List.mem_map.1 hs
    exact (hgood t ht).2

/-- Two items, the first with a blank before it and the second with one behind it. -/
theorem patternArray_kept_iff_padded :
    let text := "[region_ruler]\nallowed_regex_pattern = [' ^P(rivate)?$', \"Main \"]"
    let texts := [" ^P(rivate)?$", "Main "]
    PatternArray text (patternTable texts) texts ∧
      ∃ store, Store.ofDocument text = .ok store ∧
        (Policy.ofLookup store.get?).patterns.map NamePattern.source = ["^P(rivate)?$", "Main"] := by
  intro text texts
  have hreads : read? text = some (patternTable texts) := by decide +kernel
  have h := PatternArray.of_patternTable hreads
  obtain ⟨store, hstore, _, hkept⟩ := patternArray_kept_iff h
  have hconcrete := Operation.ofDocument_of_scalarArrays h.reads h.scalars
  obtain rfl := Except.ok.inj (hstore.symm.trans hconcrete)
  exact ⟨h, _, hstore, (hkept (by decide +kernel)).2 (by decide)⟩

/-- A counted repetition is cut at its comma, and only the part behind the comma compiles. -/
theorem patternArray_cuts_repetition :
    let text := "[region_ruler]\nallowed_regex_pattern = [\"^a\x7b1,2\x7d$\"]"
    let texts := ["^a\x7b1,2\x7d$"]
    PatternArray text (patternTable texts) texts ∧
      ∃ store, Store.ofDocument text = .ok store ∧
        (∀ t ∈ texts, Text.trim t ≠ "" ∧ (NamePattern.compile (Text.trim t)
          (Policy.ofLookup store.get?).caseSensitive).toOption.isSome = true) ∧
        (Policy.ofLookup store.get?).patterns.map NamePattern.source = ["2\x7d$"] ∧
        (Policy.ofLookup store.get?).patterns.map NamePattern.source ≠ texts.map Text.trim := by
  intro text texts
  have hreads : read? text = some (patternTable texts) := by decide +kernel
  have h := PatternArray.of_patternTable hreads
  refine ⟨h, _, Operation.ofDocument_of_scalarArrays h.reads h.scalars, ?_, ?_, ?_⟩
  · decide +kernel
  · decide +kernel
  · decide +kernel

end RegionNaming
