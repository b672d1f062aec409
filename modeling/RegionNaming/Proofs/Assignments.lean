import RegionNaming.Options.Assignment
import RegionNaming.Proofs.Store
import RegionNaming.Proofs.Text

/-! What one assignment does: which texts are assignments, which key and value they write, and what is
wrong with the others. -/

namespace RegionNaming.Options

open Text

/-- A text cut at its first equals sign, with a key before it that is not blank. -/
structure Parts (text key value : String) : Prop where
  text_eq : text = key ++ "=" ++ value
  first : '=' ∉ key.toList
  key_given : trim key ≠ ""

def WellFormed (text : String) : Prop := ∃ key value, Parts text key value

/-- The key that is written for a key as given: trimmed, with the common start put before it unless it
starts so already. -/
def writtenKey (key : String) : String :=
  if "region_ruler.".toList <+: (trim key).toList then trim key else "region_ruler." ++ trim key

def Writes (text key value : String) : Prop :=
  ∃ k v, Parts text k v ∧ key = writtenKey k ∧ value = trim v

def flaw (text : String) : AssignmentError :=
  if '=' ∈ text.toList then .noKey text else .noEquals text

theorem fullKey_eq (key : String) : fullKey key = writtenKey key := by
  have hp : (after? keyStart.toList (trimChars key.toList)).isSome = true ↔
      "region_ruler.".toList <+: (trim key).toList := by
    rw [Option.isSome_iff_exists]
    simp only [after?_eq_some_iff, toList_trim]
    exact ⟨fun ⟨rest, h⟩ => ⟨rest, h.symm⟩, fun ⟨rest, h⟩ => ⟨rest, h.symm⟩⟩
  rw [fullKey, writtenKey]
  simp only [hp]
  rfl

private theorem toList_append_equals (key value : String) :
    (key ++ "=" ++ value).toList = key.toList ++ '=' :: value.toList := by
  simp

theorem cutAt_of_parts {text key value : String} (h : Parts text key value) :
    cutAt '=' text.toList = some (key.toList, value.toList) := by
  rw [cutAt_eq_some_iff, h.text_eq, toList_append_equals]
  exact ⟨rfl, h.first⟩

/-- The two parts of an assignment are settled by its text. -/
theorem Parts.unique {text k v k' v' : String} (h : Parts text k v) (h' : Parts text k' v') :
    k = k' ∧ v = v' := by
  have hc := (cutAt_of_parts h).symm.trans (cutAt_of_parts h')
  simp only [Option.some.injEq, Prod.mk.injEq] at hc
  exact ⟨String.toList_injective hc.1, String.toList_injective hc.2⟩

theorem Writes.unique {text k v k' v' : String} (h : Writes text k v) (h' : Writes text k' v') :
    k = k' ∧ v = v' := by
  obtain ⟨a, b, hp, hk, hv⟩ := h
  obtain ⟨a', b', hp', hk', hv'⟩ := h'
  obtain ⟨ha, hb⟩ := hp.unique hp'
  rw [hk, hv, hk', hv', ha, hb]
  exact ⟨rfl, rfl⟩

theorem wellFormed_iff_writes (text : String) :
    WellFormed text ↔ ∃ key value, Writes text key value :=
  ⟨fun ⟨k, v, h⟩ => ⟨_, _, k, v, h, rfl, rfl⟩, fun ⟨_, _, k, v, h, _, _⟩ => ⟨k, v, h⟩⟩

private theorem trimChars_eq_nil_iff_trim (cs : List Char) :
    trimChars cs = [] ↔ trim (String.ofList cs) = "" := by
  rw [trim_eq_empty_iff, isBlank_iff, String.toList_ofList, trimChars_eq_nil_iff]

/-- An assignment is read as its two parts, the value trimmed. -/
theorem readAssignment_of_parts {text key value : String} (h : Parts text key value) :
    readAssignment text = .ok (key, trim value) := by
  have hk : trimChars key.toList ≠ [] := by
    rw [Ne, trimChars_eq_nil_iff_trim, String.ofList_toList]
    exact h.key_given
  rw [readAssignment, cutAt_of_parts h]
  simp only [if_neg hk, String.ofList_toList]
  rfl

/-- Any other text is refused for what is wrong with it. -/
theorem readAssignment_of_not_wellFormed {text : String} (h : ¬ WellFormed text) :
    readAssignment text = .error (flaw text) := by
  rw [readAssignment]
  cases hc : cutAt '=' text.toList with
  | none => rw [flaw, if_neg ((cutAt_eq_none_iff '=' text.toList).1 hc)]
  | some parts =>
    obtain ⟨key, value⟩ := parts
    obtain ⟨htext, hfirst⟩ := (cutAt_eq_some_iff '=' text.toList key value).1 hc
    have hm : '=' ∈ text.toList := by simp [htext]
    have hk : trimChars key = [] := by
      by_contra hk
      refine h ⟨String.ofList key, String.ofList value, ?_, by simpa using hfirst, ?_⟩
      · apply String.toList_injective
        rw [toList_append_equals, String.toList_ofList, String.toList_ofList, htext]
      · rwa [Ne, ← trimChars_eq_nil_iff_trim]
    simp only [if_pos hk, flaw, if_pos hm]

/-- An assignment puts its value under its key. -/
theorem assign_of_writes {text key value : String} (h : Writes text key value) (s : Store) :
    s.assign text = .ok (s.put key value) := by
  obtain ⟨k, v, hp, hk, hv⟩ := h
  rw [Store.assign, readAssignment_of_parts hp, hk, hv, ← fullKey_eq]
  rfl

theorem assign_of_not_wellFormed {text : String} (h : ¬ WellFormed text) (s : Store) :
    s.assign text = .error (flaw text) := by
  rw [Store.assign, readAssignment_of_not_wellFormed h]
  rfl

end RegionNaming.Options
