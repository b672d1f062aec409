import RegionNaming.Options.Value
import RegionNaming.Proofs.Text

/-! The items of a list option. A list that is joined at a delimiter has the items of both its parts, in
order, and no item holds a delimiter. So a text is an item of its own list only if it holds none. -/

namespace RegionNaming.Options

open Text

theorem blank_of_delimiter {c : Char} (h : delimiter c = true) : blank c = false := by
  rw [delimiter, Bool.or_eq_true, decide_eq_true_eq, decide_eq_true_eq] at h
  rcases h with rfl | rfl <;> rfl

theorem not_delimiter_iff (cs : List Char) :
    (∀ c ∈ cs, delimiter c = false) ↔ ',' ∉ cs ∧ ';' ∉ cs := by
  constructor
  · intro h
    exact ⟨fun hc => Bool.noConfusion (h _ hc), fun hc => Bool.noConfusion (h _ hc)⟩
  · rintro ⟨hcomma, hsemicolon⟩ c hc
    rw [delimiter, Bool.or_eq_false_iff, decide_eq_false_iff_not, decide_eq_false_iff_not]
    exact ⟨fun he => hcomma (he ▸ hc), fun he => hsemicolon (he ▸ hc)⟩

theorem itemChars_append_cons {d : Char} (hd : delimiter d = true) (as bs : List Char) :
    itemChars (as ++ d :: bs) = itemChars as ++ itemChars bs := by
  rw [itemChars, pieces_append_cons hd, List.map_append, List.filter_append]
  rfl

def Mark (d : String) : Prop := d = "," ∨ d = ";"

theorem items_append_of_mark {d : String} (hd : Mark d) (a b : String) :
    items (a ++ d ++ b) = items a ++ items b := by
  obtain ⟨c, hc, hchars⟩ : ∃ c, delimiter c = true ∧ (a ++ d ++ b).toList = a.toList ++ c :: b.toList := by
    rcases hd with rfl | rfl
    · exact ⟨',', rfl, by simp⟩
    · exact ⟨';', rfl, by simp⟩
  rw [items, hchars, itemChars_append_cons hc, List.map_append]
  rfl

theorem items_append (a b : String) : items (a ++ ";" ++ b) = items a ++ items b :=
  items_append_of_mark (.inr rfl) a b

/-- Texts with semicolons between them have the items of all of them, one text after another. -/
theorem items_intercalate (texts : List String) :
    items (String.intercalate ";" texts) = texts.flatMap items := by
  induction texts with
  | nil => rfl
  | cons text rest ih =>
    cases rest with
    | nil => simp
    | cons next rest =>
      rw [String.intercalate_cons_cons, items_append, ih]
      rfl

/-- A text without delimiters has one item, unless it is blank. -/
theorem items_of_not_delimiter {value : String} (h : ∀ c ∈ value.toList, delimiter c = false) :
    items value = if trim value = "" then [] else [trim value] := by
  have hchars : itemChars value.toList = [trimChars value.toList].filter (· ≠ []) := by
    rw [itemChars, pieces_of_not_sep h, List.map_singleton]
  have hempty : trimChars value.toList = [] ↔ trim value = "" := by
    rw [← toList_trim, String.toList_eq_nil_iff]
  rw [items, hchars]
  split
  case isTrue ht => simp [hempty.2 ht]
  case isFalse ht => simp [mt hempty.1 ht, trim]

theorem not_delimiter_of_blank {value : String} (h : isBlank value = true) :
    ∀ c ∈ value.toList, delimiter c = false := by
  intro c hc
  rw [Bool.eq_false_iff]
  intro hdel
  have hb := (isBlank_iff value).1 h c hc
  rw [blank_of_delimiter hdel] at hb
  cases hb

theorem items_of_blank {value : String} (h : isBlank value = true) : items value = [] := by
  rw [items_of_not_delimiter (not_delimiter_of_blank h), if_pos ((trim_eq_empty_iff value).2 h)]

theorem flatMap_items_eq_map_trim {texts : List String} (hne : ∀ t ∈ texts, trim t ≠ "")
    (hd : ∀ t ∈ texts, ∀ c ∈ t.toList, delimiter c = false) :
    texts.flatMap items = texts.map trim := by
  induction texts with
  | nil => rfl
  | cons t rest ih =>
    obtain ⟨ht, hrest⟩ := List.forall_mem_cons.1 hne
    obtain ⟨hdt, hdrest⟩ := List.forall_mem_cons.1 hd
    rw [List.flatMap_cons, items_of_not_delimiter hdt, if_neg ht, ih hrest hdrest]
    rfl

/-- A trimmed text without delimiters is the one item of its list. -/
theorem items_eq_singleton {value : String} (hne : value ≠ "") (ht : trim value = value)
    (hd : ∀ c ∈ value.toList, delimiter c = false) : items value = [value] := by
  rw [items_of_not_delimiter hd, ht, if_neg hne]

theorem not_delimiter_of_mem_items {item value : String} (h : item ∈ items value) :
    ∀ c ∈ item.toList, delimiter c = false := by
  obtain ⟨cs, hcs, rfl⟩ := List.mem_map.1 h
  obtain ⟨piece, hpiece, rfl⟩ := List.mem_map.1 (List.mem_filter.1 hcs).1
  intro c hc
  rw [String.toList_ofList] at hc
  exact not_sep_of_mem_pieces hpiece c (mem_of_mem_trimChars hc)

theorem trim_of_mem_items {item value : String} (h : item ∈ items value) : trim item = item ∧ item ≠ "" := by
  obtain ⟨cs, hcs, rfl⟩ := List.mem_map.1 h
  obtain ⟨hpiece, hne⟩ := List.mem_filter.1 hcs
  obtain ⟨piece, _, rfl⟩ := List.mem_map.1 hpiece
  constructor
  · rw [trim, String.toList_ofList, trimChars_trimChars]
  · simpa using hne

/-- An item of a list is the one item of itself. -/
theorem items_of_mem_items {item value : String} (h : item ∈ items value) : items item = [item] := by
  obtain ⟨htrim, hne⟩ := trim_of_mem_items h
  exact items_eq_singleton hne htrim (not_delimiter_of_mem_items h)

/-- Trimming hides no delimiter. -/
theorem not_delimiter_of_trim {value : String} (h : ∀ c ∈ (trim value).toList, delimiter c = false) :
    ∀ c ∈ value.toList, delimiter c = false := by
  intro c hc
  rw [Bool.eq_false_iff]
  intro hdel
  have hmem : c ∈ (trim value).toList := by
    rw [toList_trim]
    exact mem_trimChars_of_not_blank hc (blank_of_delimiter hdel)
  rw [h c hmem] at hdel
  cases hdel

/-- Texts are the items of their own list exactly if they are trimmed, not empty and without delimiters. -/
theorem flatMap_items_eq_self_iff (texts : List String) :
    texts.flatMap items = texts ↔
      ∀ t ∈ texts, t ≠ "" ∧ trim t = t ∧ ',' ∉ t.toList ∧ ';' ∉ t.toList := by
  constructor
  · intro heq t ht
    rw [← heq] at ht
    obtain ⟨u, _, hitem⟩ := List.mem_flatMap.1 ht
    obtain ⟨htrim, hne⟩ := trim_of_mem_items hitem
    exact ⟨hne, htrim, (not_delimiter_iff _).1 (not_delimiter_of_mem_items hitem)⟩
  · intro h
    have hne : ∀ t ∈ texts, trim t ≠ "" := fun t ht => (h t ht).2.1.symm ▸ (h t ht).1
    rw [flatMap_items_eq_map_trim hne fun t ht => (not_delimiter_iff _).2 (h t ht).2.2]
    exact (List.map_congr_left fun t ht => (h t ht).2.1).trans (List.map_id texts)

theorem isBlank_append_semicolon (a b : String) : isBlank (a ++ ";" ++ b) = false := by
  rw [Bool.eq_false_iff, ne_eq, isBlank_iff]
  intro hall
  exact absurd (hall ';' (by simp)) (by decide)

/-- Texts with semicolons between them are blank only if there is none or one that is blank. -/
theorem isBlank_intercalate_iff (texts : List String) :
    isBlank (String.intercalate ";" texts) = false ↔
      2 ≤ texts.length ∨ ∃ t, texts = [t] ∧ isBlank t = false := by
  match texts with
  | [] => simp [isBlank]
  | [t] => simp
  | t :: u :: rest =>
    rw [String.intercalate_cons_cons]
    exact iff_of_true (isBlank_append_semicolon t _) (.inl (by simp))

end RegionNaming.Options
