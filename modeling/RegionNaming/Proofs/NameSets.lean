import Mathlib.Data.Finset.Card
import RegionNaming.Policy.NameSet
import RegionNaming.Proofs.CaseTables

/-! Keys of names and the sets that are kept by them. A key is the canonical form of a name, taken
character by character, and a set of names is the set of their keys: nothing else about the list that it
was made from can be told from it. -/

namespace RegionNaming

namespace CaseMode

variable (mode : CaseMode)

theorem toList_key_ignored (name : String) :
    (ignored.key name).toList = name.toList.map Unicode.upper :=
  String.toList_ofList

@[simp] theorem key_key (name : String) : mode.key (mode.key name) = mode.key name := by
  cases mode with
  | exact => rfl
  | ignored =>
    apply String.toList_injective
    rw [toList_key_ignored, toList_key_ignored, List.map_map]
    exact List.map_congr_left fun c _ => Unicode.upper_upper c

theorem length_key (name : String) : (mode.key name).length = name.length := by
  cases mode with
  | exact => rfl
  | ignored => rw [← String.length_toList, toList_key_ignored, List.length_map, String.length_toList]

theorem key_append (a b : String) : mode.key (a ++ b) = mode.key a ++ mode.key b := by
  cases mode with
  | exact => rfl
  | ignored =>
    apply String.toList_injective
    rw [toList_key_ignored, String.toList_append, List.map_append, String.toList_append,
      toList_key_ignored, toList_key_ignored]

end CaseMode

namespace NameSet

variable (mode : CaseMode) (names : List String)

/-- A set has the names whose key is the key of a listed name. -/
theorem contains_ofList (name : String) :
    (ofList mode names).contains name = true ↔ ∃ n ∈ names, mode.key n = mode.key name := by
  simp [contains, ofList, List.mem_eraseDups]

theorem isEmpty_ofList : (ofList mode names).isEmpty = names.isEmpty := by
  cases names with
  | nil => rfl
  | cons n rest => simp [isEmpty, ofList, List.eraseDups_cons]

theorem nodup_eraseDups (keys : List String) : keys.eraseDups.Nodup := by
  cases keys with
  | nil => exact List.nodup_nil
  | cons key rest =>
    rw [List.eraseDups_cons, List.nodup_cons, List.mem_eraseDups]
    exact ⟨by simp, nodup_eraseDups _⟩
termination_by keys.length
decreasing_by exact Nat.lt_succ_of_le (List.length_filter_le _ rest)

/-- The size of a set is the number of different keys of the listed names. -/
theorem size_ofList : (ofList mode names).size = (names.map mode.key).toFinset.card := by
  have hkeys : (names.map mode.key).eraseDups.toFinset = (names.map mode.key).toFinset := by
    ext key
    rw [List.mem_toFinset, List.mem_toFinset, List.mem_eraseDups]
  rw [← hkeys, List.toFinset_card_of_nodup (nodup_eraseDups _)]
  rfl

/-- Names that are told apart without regard to letter case are told apart with it. -/
theorem size_le_size_exact : (ofList mode names).size ≤ (ofList .exact names).size := by
  have himage : (names.map mode.key).toFinset = (names.map CaseMode.exact.key).toFinset.image mode.key := by
    ext key
    simp [CaseMode.key]
  rw [size_ofList, size_ofList, himage]
  exact Finset.card_image_le

/-- A list of names written in another way: in another order, with a name once more, with a name of the
same key in the place of another, or with several such changes. -/
inductive Rewritten (mode : CaseMode) : List String → List String → Prop where
  | reordered {names others : List String} (h : names.Perm others) : Rewritten mode names others
  | repeated {names : List String} {name : String} (h : name ∈ names) :
      Rewritten mode names (name :: names)
  | replaced (front back : List String) {name other : String} (h : mode.key name = mode.key other) :
      Rewritten mode (front ++ name :: back) (front ++ other :: back)
  | trans {names others more : List String} (h : Rewritten mode names others)
      (h' : Rewritten mode others more) : Rewritten mode names more

variable {mode names} {others : List String}

/-- However a list is written, its keys are the same. -/
theorem Rewritten.mem_keys_iff (h : Rewritten mode names others) (key : String) :
    key ∈ names.map mode.key ↔ key ∈ others.map mode.key := by
  induction h with
  | reordered hperm => exact (hperm.map mode.key).mem_iff
  | repeated hm =>
    rw [List.map_cons, List.mem_cons]
    exact (or_iff_right_of_imp fun heq => heq ▸ List.mem_map_of_mem hm).symm
  | replaced front back hkey => simp only [List.map_append, List.map_cons, hkey]
  | trans _ _ ih ih' => exact ih.trans ih'

theorem Rewritten.size_eq (h : Rewritten mode names others) :
    (ofList mode others).size = (ofList mode names).size := by
  have hkeys : (others.map mode.key).toFinset = (names.map mode.key).toFinset := by
    ext key
    rw [List.mem_toFinset, List.mem_toFinset, h.mem_keys_iff]
  rw [size_ofList, size_ofList, hkeys]

theorem Rewritten.contains_eq (h : Rewritten mode names others) (name : String) :
    (ofList mode others).contains name = (ofList mode names).contains name := by
  have hkey := h.mem_keys_iff (mode.key name)
  rw [Bool.eq_iff_iff, contains_ofList, contains_ofList]
  rwa [List.mem_map, List.mem_map, Iff.comm] at hkey

theorem contains_key (name : String) :
    (ofList mode names).contains (mode.key name) = (ofList mode names).contains name := by
  rw [Bool.eq_iff_iff, contains_ofList, contains_ofList, CaseMode.key_key]

/-- Keys are canonical forms, and a set of names is a set up to them. A key is its own key, has as many
characters as its name and is taken part by part. A set has the names that have the key of a listed one, its
size is the number of their different keys, it is empty only if the list is, and another way to write the
list gives a set of the same names and size. -/
theorem ofList_canonical (mode : CaseMode) :
    (∀ name, mode.key (mode.key name) = mode.key name) ∧
    (∀ name, (mode.key name).length = name.length) ∧
    (∀ a b, mode.key (a ++ b) = mode.key a ++ mode.key b) ∧
    ∀ names,
      (∀ name, (ofList mode names).contains name = true ↔ ∃ n ∈ names, mode.key n = mode.key name) ∧
      (∀ name, (ofList mode names).contains name = (ofList mode names).contains (mode.key name)) ∧
      (ofList mode names).size = (names.map mode.key).toFinset.card ∧
      ((ofList mode names).isEmpty = true ↔ names = []) ∧
      ∀ others, Rewritten mode names others →
        (ofList mode others).size = (ofList mode names).size ∧
        ∀ name, (ofList mode others).contains name = (ofList mode names).contains name := by
  refine ⟨mode.key_key, mode.length_key, mode.key_append, fun names => ?_⟩
  refine ⟨contains_ofList mode names, fun name => (contains_key name).symm, size_ofList mode names, ?_, ?_⟩
  · rw [isEmpty_ofList, List.isEmpty_iff]
  · exact fun others h => ⟨h.size_eq, h.contains_eq⟩

/-- Three forms of one digraph and two spellings of a word with a letter whose capital would take two
characters. -/
theorem ofList_canonical_digraphs :
    Rewritten .ignored ["ǆ", "Straße"] ["STRAßE", "ǅ", "STRAßE"] ∧
      (ofList .ignored ["STRAßE", "ǅ", "STRAßE"]).size = (ofList .ignored ["ǆ", "Straße"]).size ∧
      (ofList .ignored ["STRAßE", "ǅ", "STRAßE"]).contains "Ǆ" =
        (ofList .ignored ["ǆ", "Straße"]).contains "Ǆ" := by
  have hstreet : CaseMode.ignored.key "Straße" = CaseMode.ignored.key "STRAßE" := by decide
  have hdigraph : CaseMode.ignored.key "ǆ" = CaseMode.ignored.key "ǅ" := by decide
  have h : Rewritten .ignored ["ǆ", "Straße"] ["STRAßE", "ǅ", "STRAßE"] :=
    .trans (.replaced [] ["Straße"] hdigraph)
      (.trans (.replaced ["ǅ"] [] hstreet) (.repeated (by simp)))
  obtain ⟨hsize, hcontains⟩ := (ofList_canonical .ignored).2.2.2 _ |>.2.2.2.2 _ h
  exact ⟨h, hsize, hcontains "Ǆ"⟩

example : (ofList .ignored ["Main", "MAIN", "main"]).size = 1 ∧
    (ofList .exact ["Main", "MAIN", "main"]).size = 3 := by decide

end NameSet

end RegionNaming
