import RegionNaming.Proofs.ListItems

/-! How a list option may be written. Items are clean texts, they stand in their order with a delimiter
between any two, and blanks and further delimiters may stand around them. Reading a text gives some items
exactly if the text is such a writing of them. -/

namespace RegionNaming.Options

open Text

def Filler (s : String) : Prop := ∀ c ∈ s.toList, blank c = true ∨ c = ',' ∨ c = ';'

/-- A text that can be an item: there is something of it, no blanks around it and no delimiter in it. -/
structure Clean (t : String) : Prop where
  ne_empty : t ≠ ""
  trimmed : trim t = t
  no_comma : ',' ∉ t.toList
  no_semicolon : ';' ∉ t.toList

/-- The texts that list some items. Between two items there is at least one delimiter. -/
inductive Lists : List String → String → Prop where
  | none {filler : String} (h : Filler filler) : Lists [] filler
  | last {front back : String} (item : String) (hf : Filler front) (hb : Filler back) :
      Lists [item] (front ++ item ++ back)
  | more {front back d text : String} {rest : List String} (item : String) (hf : Filler front)
      (hb : Filler back) (hd : Mark d) (h : Lists rest text) :
      Lists (item :: rest) (front ++ item ++ back ++ d ++ text)

theorem filler_append_iff (a b : String) : Filler (a ++ b) ↔ Filler a ∧ Filler b := by
  rw [Filler, String.toList_append]
  exact List.forall_mem_append

theorem Mark.filler {d : String} (h : Mark d) : Filler d := by
  rcases h with rfl | rfl <;> simp [Filler]

theorem filler_of_isBlank {s : String} (h : isBlank s = true) : Filler s :=
  fun c hc => .inl ((isBlank_iff s).1 h c hc)

theorem Filler.isBlank {s : String} (h : Filler s) (hd : ∀ c ∈ s.toList, delimiter c = false) :
    isBlank s = true := by
  rw [isBlank_iff]
  intro c hc
  refine (h c hc).resolve_right fun hm => ?_
  have hplain := hd c hc
  rcases hm with rfl | rfl <;> cases hplain

/-- A text with a delimiter is two shorter texts joined at it. -/
theorem eq_join_of_delimiter {s : String} {c : Char} (hc : c ∈ s.toList) (hd : delimiter c = true) :
    ∃ a d b, Mark d ∧ s = a ++ d ++ b ∧ a.length < s.length ∧ b.length < s.length := by
  obtain ⟨as, bs, hs⟩ := List.append_of_mem hc
  have hmark : Mark (String.singleton c) := by
    rw [delimiter, Bool.or_eq_true, decide_eq_true_eq, decide_eq_true_eq] at hd
    rcases hd with rfl | rfl
    · exact .inl rfl
    · exact .inr rfl
  have hlength : s.length = as.length + (bs.length + 1) := by
    rw [← String.length_toList, hs, List.length_append, List.length_cons]
  refine ⟨String.ofList as, String.singleton c, String.ofList bs, hmark, ?_, ?_, ?_⟩
  · apply String.toList_injective
    rw [hs]
    simp
  · rw [String.length_ofList]
    omega
  · rw [String.length_ofList]
    omega

/-- Induction over the delimiters of a text: a law of all texts without one that holds of two texts joined
at a delimiter if it holds of both. -/
theorem delimited_induction {P : String → Prop}
    (plain : ∀ s, (∀ c ∈ s.toList, delimiter c = false) → P s)
    (joined : ∀ a d b, Mark d → P a → P b → P (a ++ d ++ b)) (s : String) : P s := by
  by_cases hs : ∃ c ∈ s.toList, delimiter c = true
  · obtain ⟨c, hc, hd⟩ := hs
    obtain ⟨a, d, b, hmark, heq, ha, hb⟩ := eq_join_of_delimiter hc hd
    rw [heq]
    exact joined a d b hmark (delimited_induction plain joined a) (delimited_induction plain joined b)
  · exact plain s fun c hc => Bool.eq_false_iff.2 fun hd => hs ⟨c, hc, hd⟩
termination_by s.length

theorem items_append_blank (s : String) {b : String} (hb : isBlank b = true) : items (s ++ b) = items s := by
  induction s using delimited_induction with
  | plain s hs =>
    have hall : ∀ c ∈ (s ++ b).toList, delimiter c = false := by
      rw [String.toList_append]
      exact List.forall_mem_append.2 ⟨hs, not_delimiter_of_blank hb⟩
    rw [items_of_not_delimiter hall, items_of_not_delimiter hs, trim_append_of_blank s hb]
  | joined a d c hd _ ih =>
    rw [String.append_assoc, items_append_of_mark hd, ih, items_append_of_mark hd]

theorem items_blank_append {b : String} (hb : isBlank b = true) (s : String) : items (b ++ s) = items s := by
  induction s using delimited_induction with
  | plain s hs =>
    have hall : ∀ c ∈ (b ++ s).toList, delimiter c = false := by
      rw [String.toList_append]
      exact List.forall_mem_append.2 ⟨not_delimiter_of_blank hb, hs⟩
    rw [items_of_not_delimiter hall, items_of_not_delimiter hs, trim_of_blank_append hb]
  | joined a d c hd ih _ =>
    rw [← String.append_assoc, ← String.append_assoc, items_append_of_mark hd, ih, items_append_of_mark hd]

theorem items_of_filler {f : String} (h : Filler f) : items f = [] := by
  induction f using delimited_induction with
  | plain f hf => exact items_of_blank (h.isBlank hf)
  | joined a d b hd iha ihb =>
    obtain ⟨had, hb⟩ := (filler_append_iff _ b).1 h
    rw [items_append_of_mark hd, iha ((filler_append_iff a d).1 had).1, ihb hb]
    rfl

/-- Filler behind a text adds no item, nor does it change one. -/
theorem items_append_filler (s : String) {f : String} (h : Filler f) : items (s ++ f) = items s := by
  induction f using delimited_induction with
  | plain f hf => exact items_append_blank s (h.isBlank hf)
  | joined a d b hd iha _ =>
    obtain ⟨had, hb⟩ := (filler_append_iff _ b).1 h
    have ha := ((filler_append_iff a d).1 had).1
    rw [← String.append_assoc, ← String.append_assoc, items_append_of_mark hd, iha ha, items_of_filler hb,
      List.append_nil]

theorem items_filler_append {f : String} (h : Filler f) (s : String) : items (f ++ s) = items s := by
  induction f using delimited_induction with
  | plain f hf => exact items_blank_append (h.isBlank hf) s
  | joined a d b hd _ ihb =>
    obtain ⟨had, hb⟩ := (filler_append_iff _ b).1 h
    have ha := ((filler_append_iff a d).1 had).1
    rw [String.append_assoc, items_append_of_mark hd, ihb hb, items_of_filler ha, List.nil_append]

theorem Clean.items_eq {t : String} (h : Clean t) : items t = [t] :=
  items_eq_singleton h.ne_empty h.trimmed ((not_delimiter_iff _).2 ⟨h.no_comma, h.no_semicolon⟩)

theorem clean_of_mem_items {item text : String} (h : item ∈ items text) : Clean item := by
  obtain ⟨htrim, hne⟩ := trim_of_mem_items h
  obtain ⟨hcomma, hsemicolon⟩ := (not_delimiter_iff _).1 (not_delimiter_of_mem_items h)
  exact ⟨hne, htrim, hcomma, hsemicolon⟩

namespace Lists

variable {ts us : List String} {text other : String}

/-- A text that lists clean items reads as these items. -/
theorem items_eq (h : Lists ts text) (hc : ∀ t ∈ ts, Clean t) : items text = ts := by
  induction h with
  | none hf => exact items_of_filler hf
  | last item hf hb =>
    rw [items_append_filler _ hb, items_filler_append hf, (hc item List.mem_cons_self).items_eq]
  | more item hf hb hd _ ih =>
    obtain ⟨hitem, hrest⟩ := List.forall_mem_cons.1 hc
    rw [items_append_of_mark hd, items_append_filler _ hb, items_filler_append hf, hitem.items_eq, ih hrest]
    rfl

theorem filler_append {f : String} (hf : Filler f) (h : Lists ts text) : Lists ts (f ++ text) := by
  cases h with
  | none h => exact .none ((filler_append_iff _ _).2 ⟨hf, h⟩)
  | last item hfront hb =>
    simp only [← String.append_assoc]
    exact .last item ((filler_append_iff _ _).2 ⟨hf, hfront⟩) hb
  | more item hfront hb hd h =>
    simp only [← String.append_assoc]
    exact .more item ((filler_append_iff _ _).2 ⟨hf, hfront⟩) hb hd h

/-- Two lists joined at a delimiter list the items of both. -/
theorem append {d : String} (h : Lists ts text) (hd : Mark d) (h' : Lists us other) :
    Lists (ts ++ us) (text ++ d ++ other) := by
  induction h with
  | none hf => exact h'.filler_append ((filler_append_iff _ _).2 ⟨hf, hd.filler⟩)
  | last item hf hb =>
    -- what stood behind the last item stands before the delimiter now
    exact .more item hf hb hd h'
  | more item hf hb hd' _ ih =>
    have hmore := Lists.more item hf hb hd' ih
    simp only [← String.append_assoc] at hmore
    exact hmore

theorem of_items (text : String) : Lists (items text) text := by
  induction text using delimited_induction with
  | plain v hv =>
    rw [items_of_not_delimiter hv]
    split
    case isTrue h => exact .none (filler_of_isBlank ((trim_eq_empty_iff v).1 h))
    case isFalse =>
      obtain ⟨front, back, heq, hf, hb⟩ := (trimmedTo_trimChars v.toList).around
      have hsplit : v = String.ofList front ++ trim v ++ String.ofList back := by
        apply String.toList_injective
        simpa using heq
      have hlast : Lists [trim v] (String.ofList front ++ trim v ++ String.ofList back) :=
        .last _ (filler_of_isBlank (by simpa [isBlank] using hf))
          (filler_of_isBlank (by simpa [isBlank] using hb))
      rwa [← hsplit] at hlast
  | joined a d b hd iha ihb =>
    rw [items_append_of_mark hd]
    exact iha.append hd ihb

end Lists

/-- Reading a text gives some items exactly if these are clean and the text lists them. -/
theorem items_eq_iff (text : String) (ts : List String) :
    items text = ts ↔ (∀ t ∈ ts, Clean t) ∧ Lists ts text := by
  constructor
  · rintro rfl
    exact ⟨fun t ht => clean_of_mem_items ht, .of_items text⟩
  · rintro ⟨hclean, hlists⟩
    exact hlists.items_eq hclean

theorem items_eq_nil_iff (text : String) : items text = [] ↔ Filler text := by
  rw [items_eq_iff]
  constructor
  · rintro ⟨_, hlists⟩
    cases hlists with
    | none h => exact h
  · exact fun h => ⟨List.forall_mem_nil _, .none h⟩

/-- The items of a list option. Joining at a delimiter joins the items, a text without delimiters is its own
item once it is trimmed, unless it is blank, and every item is clean. The texts that read as given clean
items are those that list them, whatever blanks and further delimiters stand around them, and a text without
items consists of blanks and delimiters only. -/
theorem items_grammar :
    (∀ a b d, d = "," ∨ d = ";" → items (a ++ d ++ b) = items a ++ items b) ∧
    (∀ v, ',' ∉ v.toList → ';' ∉ v.toList → items v = if isBlank v then [] else [trim v]) ∧
    (∀ text, ∀ t ∈ items text, Clean t) ∧
    (∀ text ts, items text = ts ↔ (∀ t ∈ ts, Clean t) ∧ Lists ts text) ∧
    ∀ text, items text = [] ↔ ∀ c ∈ text.toList, blank c = true ∨ c = ',' ∨ c = ';' := by
  refine ⟨fun a b d hd => items_append_of_mark hd a b, fun v hcomma hsemicolon => ?_,
    fun _ _ ht => clean_of_mem_items ht, items_eq_iff, items_eq_nil_iff⟩
  rw [items_of_not_delimiter ((not_delimiter_iff _).2 ⟨hcomma, hsemicolon⟩)]
  simp only [trim_eq_empty_iff]

/-- Both delimiters, repeated and padded, and an item with a blank inside. -/
theorem items_grammar_padded :
    (∀ t ∈ ["main", "Über uns"], Clean t) ∧
      Lists ["main", "Über uns"] (" ,\t" ++ "main" ++ " ;" ++ "," ++ ("\u2003" ++ "Über uns" ++ "; ,")) ∧
      items " ,\tmain ;,\u2003Über uns; ," = ["main", "Über uns"] := by
  have hclean : ∀ t ∈ ["main", "Über uns"], Clean t := by
    intro t ht
    simp only [List.mem_cons, List.not_mem_nil, or_false] at ht
    rcases ht with rfl | rfl <;> exact ⟨by decide, by decide, by decide, by decide⟩
  have hlists : Lists ["main", "Über uns"]
      (" ,\t" ++ "main" ++ " ;" ++ "," ++ ("\u2003" ++ "Über uns" ++ "; ,")) :=
    .more "main" (by simp [Filler]; decide) (by simp [Filler]; decide) (.inl rfl)
      (.last "Über uns" (by simp [Filler]; decide) (by simp [Filler]; decide))
  exact ⟨hclean, hlists, (items_grammar.2.2.2.1 _ _).2 ⟨hclean, hlists⟩⟩

end RegionNaming.Options
