import RegionNaming.Proofs.Assignments

/-! Options written down and read back. Whatever assignments lead to a store, its entries are plain: each
can be written as an assignment that puts the same entry. So the lines of a store, in any order, give the
store again. -/

namespace RegionNaming.Options

open Text

/-- An entry whose assignment reads back: the key has the common start, is trimmed and holds no equals
sign, and the value is trimmed. -/
structure Plain (e : Entry) : Prop where
  key_start : "region_ruler.".toList <+: e.1.toList
  key_trimmed : trim e.1 = e.1
  key_first : '=' ∉ e.1.toList
  value_trimmed : trim e.2 = e.2

def LineOf (e : Entry) (line : String) : Prop := line = e.1 ++ "=" ++ e.2 ∨ line = e.1 ++ " = " ++ e.2

theorem keyStart_not_blank : ∀ c ∈ "region_ruler.".toList, blank c = false := by
  have hall : ("region_ruler.".toList.all fun c => !blank c) = true := rfl
  simpa using hall

/-- What an assignment writes is plain: of keys with the common start, with it twice or without it. -/
theorem Parts.plain {text key value : String} (h : Parts text key value) :
    Plain (writtenKey key, trim value) := by
  have hfirst : '=' ∉ (trim key).toList := by
    rw [toList_trim]
    exact fun hm => h.first (mem_of_mem_trimChars hm)
  rw [writtenKey]
  split
  case isTrue hstart => exact ⟨hstart, trim_trim key, hfirst, trim_trim value⟩
  case isFalse =>
    refine ⟨by simp, ?_, ?_, trim_trim value⟩
    · apply String.toList_injective
      rw [toList_trim, String.toList_append, toList_trim]
      exact trimChars_append_trimChars keyStart_not_blank _
    · rw [String.toList_append, List.mem_append, not_or]
      exact ⟨by decide, hfirst⟩

namespace Plain

variable {e : Entry} (h : Plain e)
include h

theorem key_given : trim e.1 ≠ "" := by
  rw [h.key_trimmed]
  intro hempty
  have hstart := h.key_start
  rw [hempty] at hstart
  simp at hstart

theorem writtenKey_eq : writtenKey e.1 = e.1 := by
  rw [writtenKey, h.key_trimmed, if_pos h.key_start]

/-- A plain entry is written by its key and value around an equals sign, with or without blanks. -/
theorem writes_padded (before after : String) (hb : isBlank before = true)
    (ha : isBlank after = true) : Writes (e.1 ++ before ++ "=" ++ (after ++ e.2)) e.1 e.2 := by
  have hkey : trim (e.1 ++ before) = trim e.1 := trim_append_of_blank e.1 hb
  have hblank : '=' ∉ before.toList := fun hm => absurd ((isBlank_iff before).1 hb '=' hm) (by decide)
  refine ⟨e.1 ++ before, after ++ e.2, ⟨rfl, ?_, ?_⟩, ?_, ?_⟩
  · rw [String.toList_append, List.mem_append, not_or]
    exact ⟨h.key_first, hblank⟩
  · rw [hkey]
    exact h.key_given
  · rw [writtenKey, hkey, ← writtenKey, h.writtenKey_eq]
  · rw [trim_of_blank_append ha, h.value_trimmed]

theorem writes_of_lineOf {line : String} (hl : LineOf e line) : Writes line e.1 e.2 := by
  rcases hl with rfl | rfl
  · simpa using h.writes_padded "" "" rfl rfl
  · have hw := h.writes_padded " " " " rfl rfl
    have heq : e.1 ++ " " ++ "=" ++ (" " ++ e.2) = e.1 ++ " = " ++ e.2 := by
      apply String.toList_injective
      simp
    rwa [heq] at hw

end Plain

namespace Store

/-- One assignment keeps all entries plain. -/
theorem plain_of_assign {s t : Store} {text : String} (hs : ∀ e ∈ s.entries, Plain e)
    (h : s.assign text = .ok t) : ∀ e ∈ t.entries, Plain e := by
  by_cases hwf : WellFormed text
  · obtain ⟨k, v, hp⟩ := hwf
    rw [assign_of_writes ⟨k, v, hp, rfl, rfl⟩] at h
    obtain rfl := Except.ok.inj h
    intro e he
    rcases mem_entries_put he with rfl | he
    · exact hp.plain
    · exact hs e he
  · rw [assign_of_not_wellFormed hwf] at h
    cases h

/-- So do assignments one after another. -/
theorem plain_of_assigns {texts : List String} {s t : Store} (hs : ∀ e ∈ s.entries, Plain e)
    (h : texts.foldlM assign s = .ok t) : ∀ e ∈ t.entries, Plain e := by
  induction texts generalizing s with
  | nil =>
    obtain rfl := Except.ok.inj h
    exact hs
  | cons text rest ih =>
    rw [List.foldlM_cons] at h
    cases ha : s.assign text with
    | error e =>
      rw [ha] at h
      cases h
    | ok u =>
      rw [ha] at h
      exact ih (plain_of_assign hs ha) h

/-- Lines of plain entries write these entries one after another. -/
theorem assigns_of_lineOf {entries : List Entry} {lines : List String}
    (h : List.Forall₂ LineOf entries lines) (hp : ∀ e ∈ entries, Plain e) (s : Store) :
    lines.foldlM assign s = .ok (s.putAll entries) := by
  induction h generalizing s with
  | nil => rfl
  | cons hline _ ih =>
    obtain ⟨he, hrest⟩ := List.forall_mem_cons.1 hp
    rw [List.foldlM_cons, assign_of_writes (he.writes_of_lineOf hline), putAll_cons]
    exact ih hrest _

/-- A store that assignments lead to can be written down and read back. Its keys have the common start, no
blanks around them and no equals sign, its values have no blanks around them, and lines for its entries, in
any order, can all be carried out and lead to the same store. -/
theorem assigns_read_back {texts : List String} {s : Store} (h : texts.foldlM assign empty = .ok s) :
    (∀ e ∈ s.entries, "region_ruler.".toList <+: e.1.toList ∧ trim e.1 = e.1 ∧ '=' ∉ e.1.toList ∧
      trim e.2 = e.2) ∧
    ∀ entries lines, entries.Perm s.entries → List.Forall₂ LineOf entries lines →
      lines.foldlM assign empty = .ok s := by
  have hplain : ∀ e ∈ s.entries, Plain e := plain_of_assigns (List.forall_mem_nil _) h
  refine ⟨fun e he => ?_, fun entries lines hperm hlines => ?_⟩
  · obtain ⟨hstart, hkey, hfirst, hvalue⟩ := hplain e he
    exact ⟨hstart, hkey, hfirst, hvalue⟩
  · have hp : ∀ e ∈ entries, Plain e := fun e he => hplain e (hperm.mem_iff.1 he)
    rw [assigns_of_lineOf hlines hp]
    exact congrArg Except.ok (ofList_of_perm hperm)

/-- A padded key, a key that carries the start twice, an empty value and one with equals signs, read back in
the other order and in both ways of writing. -/
theorem assigns_read_back_padded :
    let texts := [" b = x=y= ", "region_ruler.region_ruler.a=", "b\t=x = y "]
    let lines := ["region_ruler.region_ruler.a = ", "region_ruler.b=x = y"]
    ∃ s, texts.foldlM assign empty = .ok s ∧ s.get? "region_ruler.b" = some "x = y" ∧
      lines.foldlM assign empty = .ok s := by
  intro texts lines
  have htexts : texts.foldlM assign empty = .ok
      ⟨[("region_ruler.b", "x = y"), ("region_ruler.region_ruler.a", "")], by decide⟩ := rfl
  refine ⟨_, htexts, rfl, (assigns_read_back htexts).2 _ lines (.swap _ _ []) ?_⟩
  exact .cons (.inr rfl) (.cons (.inl rfl) .nil)

end Store

end RegionNaming.Options
