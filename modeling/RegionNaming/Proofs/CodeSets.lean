import RegionNaming.Unicode.CodeSet

/-! The members of sets of code points. Whatever ranges a set is put together from, its search for a
code point finds the members of those ranges and no others. -/

namespace RegionNaming.Unicode.CodeSet

abbrev Sorted (s : CodeSet) : Prop := s.Pairwise fun a b => a.1 ≤ b.1

def Holds (s : CodeSet) (n : Nat) : Prop := ∃ r ∈ s, r.1 ≤ n ∧ n ≤ r.2

@[simp] theorem holds_nil (n : Nat) : ¬ Holds [] n := by simp [Holds]

@[simp] theorem holds_cons (r : Range) (s : CodeSet) (n : Nat) :
    Holds (r :: s) n ↔ (r.1 ≤ n ∧ n ≤ r.2) ∨ Holds s n := by
  simp [Holds]

/-- The search may end at the first range above `n`, since no later range starts lower. -/
theorem contains_iff_holds {s : CodeSet} (h : Sorted s) (n : Nat) : s.contains n = true ↔ s.Holds n := by
  induction s with
  | nil => simp [contains]
  | cons r rest ih =>
    obtain ⟨hr, hrest⟩ := List.pairwise_cons.1 h
    rw [contains, holds_cons]
    split
    case isTrue hlt =>
      have hno : ¬ Holds rest n := by
        rintro ⟨s, hs, hlo, _⟩
        have hle := hr s hs
        omega
      simp only [hno, or_false, Bool.false_eq_true, false_iff]
      omega
    case isFalse hlt =>
      split
      case isTrue hle => simp only [true_iff]; exact .inl ⟨by omega, hle⟩
      case isFalse hle =>
        rw [ih hrest]
        exact (or_iff_right fun hn => hle hn.2).symm

section Interleave

theorem mem_interleave {fuel : Nat} {a b : CodeSet} (hf : a.length + b.length < fuel) (r : Range) :
    r ∈ interleave fuel a b ↔ r ∈ a ∨ r ∈ b := by
  fun_induction interleave fuel a b with
  | case1 => omega
  | case2 fuel ys => simp
  | case3 fuel xs => simp
  | case4 fuel x xs y ys hle ih =>
    simp only [List.length_cons] at hf ih
    rw [List.mem_cons, ih (by omega), List.mem_cons (l := xs), or_assoc]
  | case5 fuel x xs y ys hle ih =>
    simp only [List.length_cons] at hf ih
    rw [List.mem_cons, ih (by omega), List.mem_cons (l := ys), or_left_comm]

theorem sorted_interleave {fuel : Nat} {a b : CodeSet} (hf : a.length + b.length < fuel)
    (ha : Sorted a) (hb : Sorted b) : Sorted (interleave fuel a b) := by
  fun_induction interleave fuel a b with
  | case1 => omega
  | case2 fuel ys => exact hb
  | case3 fuel xs => exact ha
  | case4 fuel x xs y ys hle ih =>
    simp only [List.length_cons] at hf ih
    obtain ⟨hx, hxs⟩ := List.pairwise_cons.1 ha
    obtain ⟨hy, _⟩ := List.pairwise_cons.1 hb
    refine List.pairwise_cons.2 ⟨fun r hr => ?_, ih (by omega) hxs hb⟩
    rw [mem_interleave (by simp only [List.length_cons]; omega)] at hr
    rcases hr with hr | hr
    · exact hx r hr
    · rcases List.mem_cons.1 hr with rfl | hr
      · exact hle
      · exact Nat.le_trans hle (hy r hr)
  | case5 fuel x xs y ys hle ih =>
    simp only [List.length_cons] at hf ih
    obtain ⟨hx, _⟩ := List.pairwise_cons.1 ha
    obtain ⟨hy, hys⟩ := List.pairwise_cons.1 hb
    refine List.pairwise_cons.2 ⟨fun r hr => ?_, ih (by omega) ha hys⟩
    rw [mem_interleave (by simp only [List.length_cons]; omega)] at hr
    rcases hr with hr | hr
    · rcases List.mem_cons.1 hr with rfl | hr
      · omega
      · have hle' := hx r hr
        omega
    · exact hy r hr

end Interleave

section Join

theorem holds_joinFrom {r : Range} {s : CodeSet} (h : Sorted (r :: s)) (n : Nat) :
    Holds (joinFrom r s) n ↔ Holds (r :: s) n := by
  induction s generalizing r with
  | nil => rfl
  | cons t rest ih =>
    obtain ⟨hr, hs⟩ := List.pairwise_cons.1 h
    obtain ⟨ht, hrest⟩ := List.pairwise_cons.1 hs
    have hrt : r.1 ≤ t.1 := hr t List.mem_cons_self
    rw [joinFrom]
    split
    case isTrue hle =>
      have hj : Sorted ((r.1, max r.2 t.2) :: rest) :=
        List.pairwise_cons.2 ⟨fun u hu => hr u (List.mem_cons_of_mem t hu), hrest⟩
      rw [ih hj, holds_cons, holds_cons, holds_cons, ← or_assoc]
      refine or_congr_left ?_
      dsimp only
      omega
    case isFalse => rw [holds_cons, ih hs, holds_cons r]

theorem le_of_mem_joinFrom {r : Range} {s : CodeSet} (h : Sorted (r :: s)) :
    ∀ t ∈ joinFrom r s, r.1 ≤ t.1 := by
  induction s generalizing r with
  | nil => simp [joinFrom]
  | cons u rest ih =>
    obtain ⟨hr, hs⟩ := List.pairwise_cons.1 h
    obtain ⟨_, hrest⟩ := List.pairwise_cons.1 hs
    rw [joinFrom]
    split
    case isTrue =>
      exact ih (r := (r.1, max r.2 u.2))
        (List.pairwise_cons.2 ⟨fun v hv => hr v (List.mem_cons_of_mem u hv), hrest⟩)
    case isFalse =>
      refine List.forall_mem_cons.2 ⟨Nat.le_refl _, fun t ht => ?_⟩
      exact Nat.le_trans (hr u List.mem_cons_self) (ih hs t ht)

theorem sorted_joinFrom {r : Range} {s : CodeSet} (h : Sorted (r :: s)) : Sorted (joinFrom r s) := by
  induction s generalizing r with
  | nil => exact List.pairwise_singleton _ _
  | cons u rest ih =>
    obtain ⟨hr, hs⟩ := List.pairwise_cons.1 h
    obtain ⟨_, hrest⟩ := List.pairwise_cons.1 hs
    rw [joinFrom]
    split
    case isTrue =>
      exact ih (List.pairwise_cons.2 ⟨fun v hv => hr v (List.mem_cons_of_mem u hv), hrest⟩)
    case isFalse =>
      refine List.pairwise_cons.2 ⟨fun t ht => ?_, ih hs⟩
      exact Nat.le_trans (hr u List.mem_cons_self) (le_of_mem_joinFrom hs t ht)

theorem sorted_join {s : CodeSet} (h : Sorted s) : Sorted (join s) := by
  cases s with
  | nil => exact .nil
  | cons r rest => exact sorted_joinFrom h

theorem holds_join {s : CodeSet} (h : Sorted s) (n : Nat) : Holds (join s) n ↔ Holds s n := by
  cases s with
  | nil => rfl
  | cons r rest => exact holds_joinFrom h n

end Join

theorem sorted_union {a b : CodeSet} (ha : Sorted a) (hb : Sorted b) : Sorted (union a b) := by
  unfold union
  split
  · exact hb
  · exact ha
  · exact sorted_join (sorted_interleave (Nat.lt_succ_self _) ha hb)

theorem holds_union {a b : CodeSet} (ha : Sorted a) (hb : Sorted b) (n : Nat) :
    Holds (union a b) n ↔ Holds a n ∨ Holds b n := by
  unfold union
  split
  · simp
  · simp
  · rw [holds_join (sorted_interleave (Nat.lt_succ_self _) ha hb)]
    simp only [Holds, mem_interleave (Nat.lt_succ_self _), or_and_right, exists_or]

/-- The ranges of some code points, one after another added to a set. -/
theorem holds_foldl_union (codes : List Nat) {s : CodeSet} (hs : Sorted s) (n : Nat) :
    Sorted ((codes.map single).foldl union s) ∧
      (Holds ((codes.map single).foldl union s) n ↔ Holds s n ∨ n ∈ codes) := by
  induction codes generalizing s with
  | nil => simpa using hs
  | cons c codes ih =>
    have hc : Sorted (single c) := List.pairwise_singleton _ _
    obtain ⟨hsorted, hholds⟩ := ih (sorted_union hs hc)
    refine ⟨hsorted, hholds.trans ?_⟩
    rw [holds_union hs hc, or_assoc, List.mem_cons]
    have hn : Holds (single c) n ↔ n = c := by
      simp only [single, holds_cons, holds_nil, or_false]
      omega
    rw [hn]

/-- The set of some code points has these and no others. -/
theorem contains_ofCodes (codes : List Nat) (n : Nat) :
    (ofCodes codes).contains n = true ↔ n ∈ codes := by
  obtain ⟨hsorted, hholds⟩ := holds_foldl_union codes .nil n
  rw [ofCodes, unionAll, contains_iff_holds hsorted, hholds]
  simp

end RegionNaming.Unicode.CodeSet
