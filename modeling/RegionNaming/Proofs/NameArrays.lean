import RegionNaming.Proofs.StoreHistory
import RegionNaming.Proofs.UnitDiagnostics

/-! Names from an array of a table. The texts of the array are joined and cut again, so the listed names
are the items of the texts, and the texts themselves only if none of them is blank, padded or cut. The
list counts as given as soon as the joined text is not blank, which two texts see to by the mark between
them. -/

namespace RegionNaming

open Options Toml

/-- A table in which an array of scalars with the given texts has the last word on the option of names, and
whose arrays hold scalars only. -/
structure NameArray (table : List (String × Value)) (texts : List String) : Prop where
  scalars : ScalarArrays table
  last : ∃ before path values later, tableLeaves table = before ++ (path, .array values) :: later ∧
    dottedKey path = allowedNamesKey ∧ values.map Value.scalarText? = texts.map some ∧
    ∀ leaf ∈ later, dottedKey leaf.1 ≠ allowedNamesKey

/-- The option of names has the texts of the array with semicolons between them. -/
theorem NameArray.get?_eq {table : List (String × Value)} {texts : List String}
    (h : NameArray table texts) :
    (Store.ofList ((tableLeaves table).map leafEntry)).get? allowedNamesKey =
      some (String.intercalate ";" texts) := by
  obtain ⟨before, path, values, later, hleaves, hkey, htexts, hlater⟩ := h.last
  rw [Store.get?_ofList_eq_some_iff, lastEntry_leaves_iff]
  exact ⟨before, _, later, hleaves, hkey, text_array htexts, hlater⟩

section Given

variable {lookup : Lookup} {value : String} (h : lookup allowedNamesKey = some value)
include h

theorem customNames_iff_of_names :
    (Policy.ofLookup lookup).customNames = true ↔ Text.isBlank value = false := by
  rw [Policy.customNames_ofLookup, supplied, h, Option.any_some, bne_iff_ne, ne_eq,
    Text.trim_eq_empty_iff, Bool.not_eq_true]

/-- Once the option counts as given, the names are its items. -/
theorem names_of_customNames (hc : (Policy.ofLookup lookup).customNames = true) :
    (Policy.ofLookup lookup).names =
      NameSet.ofList (CaseMode.ofSensitive (Policy.ofLookup lookup).caseSensitive) (items value) := by
  have hlisted : listed lookup allowedNamesKey = items value :=
    (listed_of_not_blank h ((customNames_iff_of_names h).1 hc)).2
  rw [Policy.customNames_ofLookup] at hc
  rw [Policy.names_ofLookup, if_pos hc, hlisted, Policy.caseSensitive_ofLookup]

end Given

/-- As long as the option does not count as given, the names are the default ones. -/
theorem names_of_not_customNames {lookup : Lookup} (hc : (Policy.ofLookup lookup).customNames = false) :
    (Policy.ofLookup lookup).names =
      NameSet.ofList (CaseMode.ofSensitive (Policy.ofLookup lookup).caseSensitive) defaultNames := by
  rw [Policy.customNames_ofLookup] at hc
  rw [Policy.names_ofLookup, hc, Policy.caseSensitive_ofLookup]
  rfl

/-- If the names that were given are none, only patterns are held against a name. -/
theorem id_of_no_names {L : Type} {clock : Clock} {p : Policy} (hc : p.customNames = true)
    (hn : p.names.isEmpty = true)
    {c : RuleChain} {name : String} (hb : Text.isBlank name = false) {location : L} {d : Diagnostic L}
    (hd : d ∈ c.diagnostics clock p name location) : d.id = "RR2002" := by
  obtain ⟨r, hr, rfl⟩ := RuleChain.exists_rule_of_mem_diagnostics p name hd
  have happlies : r.applies p name = true := (List.mem_filter.1 hr).2
  cases r with
  | empty => simp [Rule.applies, hb] at happlies
  | noConfig => simp [Rule.applies, Policy.custom, hc] at happlies
  | allowedNames => simp [Rule.applies, hn] at happlies
  | pattern => rfl

/-- How an array of names reads back. The option is cut into the items of the texts, which are the texts
themselves exactly if these are trimmed, not empty and without delimiters. It counts as given if there are
two texts, or one that is not blank, and then the names are those with the key of an item; otherwise they
are the default names. Two or more blank texts are a list that is given and empty, under which only
patterns are held against a name. -/
theorem nameArray_read_back {table : List (String × Value)} {texts : List String}
    (h : NameArray table texts) :
    ∃ store value, flatten table = .ok store ∧
      (∀ text, read? text = some table → Store.ofDocument text = .ok store) ∧
      store.get? allowedNamesKey = some value ∧
      items value = texts.flatMap items ∧
      (items value = texts ↔
        ∀ t ∈ texts, t ≠ "" ∧ Text.trim t = t ∧ ',' ∉ t.toList ∧ ';' ∉ t.toList) ∧
      let p := Policy.ofLookup store.get?
      let mode := CaseMode.ofSensitive p.caseSensitive
      (p.customNames = true ↔ 2 ≤ texts.length ∨ ∃ t, texts = [t] ∧ Text.trim t ≠ "") ∧
      (p.customNames = false → p.names = NameSet.ofList mode defaultNames) ∧
      (p.customNames = true → ∀ name, p.names.contains name = true ↔
        ∃ token ∈ items value, mode.key token = mode.key name) ∧
      (2 ≤ texts.length → (∀ t ∈ texts, Text.trim t = "") →
        p.customNames = true ∧ p.names.isEmpty = true ∧
        ∀ (L : Type) (clock : Clock) (c : RuleChain) (name : String) (location : L), Text.trim name ≠ "" →
          ∀ d ∈ c.diagnostics clock p name location, d.id = "RR2002") := by
  have hget := h.get?_eq
  have hitems := items_intercalate texts
  refine ⟨_, _, flatten_of_scalarArrays h.scalars,
    fun text hr => Operation.ofDocument_of_scalarArrays hr h.scalars, hget, hitems, ?_, ?_⟩
  · rw [hitems]
    exact flatMap_items_eq_self_iff texts
  intro p mode
  have hcustom : p.customNames = true ↔ 2 ≤ texts.length ∨ ∃ t, texts = [t] ∧ Text.trim t ≠ "" := by
    simp only [ne_eq, Text.trim_eq_empty_iff, Bool.not_eq_true]
    rw [customNames_iff_of_names hget, isBlank_intercalate_iff]
  refine ⟨hcustom, names_of_not_customNames, fun hc name => ?_, fun htwo hblank => ?_⟩
  · rw [names_of_customNames hget hc, NameSet.contains_ofList]
  · have hc : p.customNames = true := hcustom.2 (.inl htwo)
    have hnil : texts.flatMap items = [] :=
      List.flatMap_eq_nil_iff.2 fun t ht => items_of_blank ((Text.trim_eq_empty_iff t).1 (hblank t ht))
    have hempty : p.names.isEmpty = true := by
      rw [names_of_customNames hget hc, NameSet.isEmpty_ofList, hitems, hnil]
      rfl
    refine ⟨hc, hempty, fun L clock c name location hname d hd => id_of_no_names hc hempty ?_ hd⟩
    rwa [ne_eq, Text.trim_eq_empty_iff, Bool.not_eq_true] at hname

/-- Two blank texts, in an array that stands behind another value under the same dotted key. -/
theorem nameArray_read_back_blank :
    let table : List (String × Value) := [("", .table [("region_ruler.allowed_region_name", .string "Main")]),
      ("region_ruler", .table [("allowed_region_name", .array [.string " ", .string ""])])]
    NameArray table [" ", ""] ∧
      ∃ store, flatten table = .ok store ∧ (Policy.ofLookup store.get?).customNames = true ∧
        ∀ d ∈ RuleChain.standard.diagnostics .still (Policy.ofLookup store.get?) "Other" (),
          d.id = "RR2002" := by
  intro table
  have hleaves : tableLeaves table = [(["", "region_ruler.allowed_region_name"], .string "Main")] ++
      [(["region_ruler", "allowed_region_name"], .array [.string " ", .string ""])] := rfl
  have h : NameArray table [" ", ""] := by
    refine ⟨?_, _, _, _, _, hleaves, rfl, rfl, nofun⟩
    intro path items hm item hi
    rw [hleaves] at hm
    simp only [List.cons_append, List.nil_append, List.mem_cons, Prod.mk.injEq, Value.array.injEq,
      reduceCtorEq, and_false, List.not_mem_nil, or_false, false_or] at hm
    obtain ⟨rfl, rfl⟩ := hm
    simp only [List.mem_cons, List.not_mem_nil, or_false] at hi
    rcases hi with rfl | rfl <;> trivial
  obtain ⟨store, _, hstore, _, _, _, _, _, _, _, hnone⟩ := nameArray_read_back h
  obtain ⟨hc, _, hids⟩ := hnone (by decide) (by decide)
  exact ⟨h, store, hstore, hc, hids Unit .still .standard "Other" () (by decide)⟩

end RegionNaming
