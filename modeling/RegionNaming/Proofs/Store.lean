import Mathlib.Data.List.Basic
import RegionNaming.Options.Store

/-! Stores through their values. A store is settled by the values of its keys, each operation is
settled by what it does to them, and of several writes to a key the last one counts. -/

namespace RegionNaming.Options

theorem findEntry_putEntry (key value k : String) (entries : List Entry) :
    findEntry k (putEntry key value entries) =
      if k = key then some value else findEntry k entries := by
  induction entries with
  | nil => rfl
  | cons e rest ih =>
    rw [putEntry]
    split
    · rfl
    · split
      case isTrue heq =>
        subst heq
        by_cases hk : k = e.1 <;> simp [findEntry, hk]
      case isFalse hne =>
        by_cases hk : k = e.1
        · have hkey : k ≠ key := fun h => hne (h.symm.trans hk)
          rw [findEntry, if_pos hk, if_neg hkey, findEntry, if_pos hk]
        · rw [findEntry, if_neg hk, ih, findEntry, if_neg hk]

theorem findEntry_eq_none {k : String} {entries : List Entry} (h : ∀ e ∈ entries, e.1 ≠ k) :
    findEntry k entries = none := by
  induction entries with
  | nil => rfl
  | cons e rest ih =>
    obtain ⟨he, hrest⟩ := List.forall_mem_cons.1 h
    rw [findEntry, if_neg (Ne.symm he), ih hrest]

/-- The keys behind the first entry differ from its key. -/
theorem ne_of_ascending_cons {e : Entry} {rest : List Entry} (h : Ascending (e :: rest)) :
    ∀ d ∈ rest, d.1 ≠ e.1 := by
  intro d hd heq
  have hlt := (List.pairwise_cons.1 h).1 d hd
  rw [heq] at hlt
  exact String.lt_irrefl _ hlt

/-- In ascending order every entry is the one that is found under its key. -/
theorem mem_iff_findEntry {entries : List Entry} (h : Ascending entries) (e : Entry) :
    e ∈ entries ↔ findEntry e.1 entries = some e.2 := by
  induction entries with
  | nil => simp [findEntry]
  | cons d rest ih =>
    have hne := ne_of_ascending_cons h
    rw [findEntry, List.mem_cons, ih (List.pairwise_cons.1 h).2]
    by_cases hk : e.1 = d.1
    · rw [if_pos hk, hk, findEntry_eq_none hne, Option.some.injEq, eq_comm]
      simp [Prod.ext_iff, hk]
    · have hed : e ≠ d := fun hd => hk (congrArg Prod.fst hd)
      rw [if_neg hk, or_iff_right hed]

/-- Two lists of entries in ascending order that give each key the same value are the same. -/
theorem eq_of_findEntry {a b : List Entry} (ha : Ascending a) (hb : Ascending b)
    (h : ∀ k, findEntry k a = findEntry k b) : a = b := by
  have nodup {entries : List Entry} (hs : Ascending entries) : entries.Nodup := by
    refine List.Pairwise.imp ?_ hs
    rintro d _ hlt rfl
    exact String.lt_irrefl _ hlt
  have hp : a.Perm b := by
    rw [List.perm_ext_iff_of_nodup (nodup ha) (nodup hb)]
    intro e
    rw [mem_iff_findEntry ha, mem_iff_findEntry hb, h]
  exact hp.eq_of_pairwise
    (fun x y _ _ hxy hyx => absurd (String.lt_trans hxy hyx) (String.lt_irrefl _)) ha hb

def LastEntry (entries : List Entry) (key value : String) : Prop :=
  ∃ before later, entries = before ++ (key, value) :: later ∧ ∀ e ∈ later, e.1 ≠ key

theorem lastEntry_cons_iff (e : Entry) (rest : List Entry) (key value : String) :
    LastEntry (e :: rest) key value ↔
      LastEntry rest key value ∨ e = (key, value) ∧ ∀ d ∈ rest, d.1 ≠ key := by
  constructor
  · rintro ⟨before, later, heq, hl⟩
    cases before with
    | nil =>
      cases heq
      exact .inr ⟨rfl, hl⟩
    | cons d before =>
      cases heq
      exact .inl ⟨before, later, rfl, hl⟩
  · rintro (⟨before, later, rfl, hl⟩ | ⟨rfl, hl⟩)
    · exact ⟨e :: before, later, rfl, hl⟩
    · exact ⟨[], rest, rfl, hl⟩

/-- Where no key stands twice, every entry is the last one under its key. -/
theorem lastEntry_iff_mem {entries : List Entry} (h : (entries.map Prod.fst).Nodup) (key value : String) :
    LastEntry entries key value ↔ (key, value) ∈ entries := by
  constructor
  · rintro ⟨before, later, rfl, _⟩
    simp
  · intro hm
    obtain ⟨before, later, rfl⟩ := List.append_of_mem hm
    rw [List.map_append, List.map_cons, List.nodup_append, List.nodup_cons] at h
    exact ⟨before, later, rfl, fun e he heq => h.2.1.1 (List.mem_map.2 ⟨e, he, heq⟩)⟩

namespace Store

theorem ext_get? {s t : Store} (h : ∀ k, s.get? k = t.get? k) : s = t := by
  obtain ⟨a, ha⟩ := s
  obtain ⟨b, hb⟩ := t
  have hab : a = b := eq_of_findEntry ha hb h
  subst hab
  rfl

/-- There is one entry for each key. -/
theorem keys_nodup (s : Store) : (s.entries.map Prod.fst).Nodup := by
  refine List.Pairwise.map _ ?_ s.ascending
  intro a b hlt heq
  rw [heq] at hlt
  exact String.lt_irrefl _ hlt

theorem mem_keys_iff (s : Store) (key : String) :
    key ∈ s.entries.map Prod.fst ↔ ∃ value, s.get? key = some value := by
  rw [List.mem_map]
  constructor
  · rintro ⟨e, he, rfl⟩
    exact ⟨e.2, (mem_iff_findEntry s.ascending e).1 he⟩
  · rintro ⟨value, hv⟩
    exact ⟨(key, value), (mem_iff_findEntry s.ascending (key, value)).2 hv, rfl⟩

theorem isEmpty_iff (s : Store) : s.isEmpty = true ↔ ∀ key, s.get? key = none := by
  rw [isEmpty, List.isEmpty_iff]
  constructor
  · intro h key
    rw [get?, h]
    rfl
  · intro h
    rw [List.eq_nil_iff_forall_not_mem]
    intro e he
    have hget := (mem_iff_findEntry s.ascending e).1 he
    rw [← get?, h e.1] at hget
    cases hget

@[simp] theorem get?_empty (k : String) : empty.get? k = none := rfl

theorem get?_put (s : Store) (key value k : String) :
    (s.put key value).get? k = if k = key then some value else s.get? k :=
  findEntry_putEntry key value k s.entries

/-- A write adds one entry; the other ones were there before. -/
theorem mem_entries_put {s : Store} {key value : String} {e : Entry} (h : e ∈ (s.put key value).entries) :
    e = (key, value) ∨ e ∈ s.entries := by
  rw [mem_iff_findEntry (s.put key value).ascending, ← get?, get?_put] at h
  split at h
  case isTrue hk => exact .inl (Prod.ext hk (Option.some.inj h).symm)
  case isFalse => exact .inr ((mem_iff_findEntry s.ascending e).2 h)

@[simp] theorem putAll_cons (s : Store) (e : Entry) (entries : List Entry) :
    s.putAll (e :: entries) = (s.put e.1 e.2).putAll entries := rfl

theorem ofList_cons (e : Entry) (entries : List Entry) :
    ofList (e :: entries) = (empty.put e.1 e.2).putAll entries := rfl

/-- Entries write the same values over any store; where they write none the store shows through. -/
theorem get?_putAll (s : Store) (entries : List Entry) (k : String) :
    (s.putAll entries).get? k = ((ofList entries).get? k).or (s.get? k) := by
  induction entries generalizing s with
  | nil => rfl
  | cons e rest ih =>
    rw [putAll_cons, ih, ofList_cons, ih (empty.put e.1 e.2), get?_put, get?_put, Option.or_assoc]
    split <;> simp

theorem get?_ofList_eq_none_iff (entries : List Entry) (key : String) :
    (ofList entries).get? key = none ↔ ∀ e ∈ entries, e.1 ≠ key := by
  induction entries with
  | nil => simp [ofList, putAll]
  | cons e rest ih =>
    rw [ofList_cons, get?_putAll, Option.or_eq_none_iff, ih, get?_put, List.forall_mem_cons, and_comm]
    simp [eq_comm]

/-- Of entries with the same key the last one counts. -/
theorem get?_ofList_eq_some_iff (entries : List Entry) (key value : String) :
    (ofList entries).get? key = some value ↔ LastEntry entries key value := by
  induction entries with
  | nil => simp [ofList, putAll, LastEntry]
  | cons e rest ih =>
    rw [ofList_cons, get?_putAll, Option.or_eq_some_iff, ih, get?_ofList_eq_none_iff, get?_put,
      lastEntry_cons_iff, and_comm (a := e = (key, value))]
    simp [Prod.ext_iff, eq_comm]

/-- The entries of a store give the store again, in whatever order they are written. -/
theorem ofList_of_perm {s : Store} {entries : List Entry} (h : entries.Perm s.entries) :
    ofList entries = s := by
  have hnodup : (entries.map Prod.fst).Nodup := (h.map Prod.fst).nodup_iff.2 s.keys_nodup
  apply ext_get?
  intro key
  apply Option.ext
  intro value
  rw [get?_ofList_eq_some_iff, lastEntry_iff_mem hnodup, h.mem_iff]
  exact mem_iff_findEntry s.ascending (key, value)

theorem ofList_entries (s : Store) : ofList s.entries = s := ofList_of_perm (List.Perm.refl _)

theorem get?_merge (s other : Store) (k : String) :
    (s.merge other).get? k = (other.get? k).or (s.get? k) := by
  rw [merge, get?_putAll, ofList_entries]

/-- Writing entries one after another is laying their store over the given one. -/
theorem merge_ofList (s : Store) (entries : List Entry) :
    s.merge (ofList entries) = s.putAll entries := by
  apply ext_get?
  intro k
  rw [get?_merge, get?_putAll]

end Store

end RegionNaming.Options
