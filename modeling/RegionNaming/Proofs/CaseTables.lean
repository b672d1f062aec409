import Mathlib.Data.Nat.Bitwise
import RegionNaming.Text.Blank
import RegionNaming.Unicode.Folding
import RegionNaming.Unicode.Uppercase

/-! The two tables of letter case side by side. Upper case and case folding take the same characters for
one letter, but for the letters whose upper-case form is one of a short list. Sets of code points are
kept as the bits of numbers where whole tables are compared. -/

namespace RegionNaming.Unicode

deriving instance DecidableEq for CaseRun

namespace CaseRun

def comb (step : Nat) : Nat → Nat
  | 0 => 0
  | count + 1 => 1 ||| comb step count <<< step

def domain (r : CaseRun) : Nat := comb r.step r.size <<< r.first

def range (r : CaseRun) : Nat := comb r.step r.size <<< r.image

theorem testBit_comb (step : Nat) {i count : Nat} (h : i < count) :
    (comb step count).testBit (i * step) = true := by
  induction count generalizing i with
  | zero => omega
  | succ count ih =>
    rw [comb, Nat.testBit_or]
    cases i with
    | zero => simp
    | succ i =>
      have hi : (i + 1) * step = i * step + step := Nat.succ_mul i step
      rw [hi, Nat.testBit_shiftLeft, Nat.add_sub_cancel, ih (by omega)]
      simp

variable {r : CaseRun} {n : Nat}

theorem covers_iff : r.covers n = true ↔ r.first ≤ n ∧ n ≤ r.last ∧ (n - r.first) % r.step = 0 := by
  simp [covers, and_assoc]

/-- A code point that a run maps lies some steps behind its first one, and its image as far behind the
first image. -/
theorem exists_of_covers (h : r.covers n = true) :
    ∃ i < r.size, n = r.first + i * r.step ∧ r.apply n = r.image + i * r.step := by
  obtain ⟨hfirst, hlast, hmod⟩ := covers_iff.1 h
  have hdiv : (n - r.first) / r.step ≤ (r.last - r.first) / r.step :=
    Nat.div_le_div_right (Nat.sub_le_sub_right hlast r.first)
  have hmul : (n - r.first) / r.step * r.step = n - r.first :=
    Nat.div_mul_cancel (Nat.dvd_of_mod_eq_zero hmod)
  refine ⟨(n - r.first) / r.step, Nat.lt_succ_of_le hdiv, ?_, ?_⟩
  · omega
  · rw [hmul, apply]

theorem mem_pairs_of_covers (h : r.covers n = true) : (n, r.apply n) ∈ r.pairs := by
  obtain ⟨i, hi, hn, ha⟩ := exists_of_covers h
  rw [ha, hn]
  exact List.mem_map_of_mem (List.mem_range.2 hi)

theorem testBit_domain (h : r.covers n = true) : r.domain.testBit n = true := by
  obtain ⟨i, hi, hn, _⟩ := exists_of_covers h
  have hle : r.first ≤ r.first + i * r.step := Nat.le_add_right _ _
  rw [hn, domain, Nat.testBit_shiftLeft, Nat.add_sub_cancel_left, testBit_comb r.step hi]
  simp

theorem testBit_range (h : r.covers n = true) : r.range.testBit (r.apply n) = true := by
  obtain ⟨i, hi, _, ha⟩ := exists_of_covers h
  have hle : r.image ≤ r.image + i * r.step := Nat.le_add_right _ _
  rw [ha, range, Nat.testBit_shiftLeft, Nat.add_sub_cancel_left, testBit_comb r.step hi]
  simp

end CaseRun

section Runs

variable {runs : List CaseRun} {r : CaseRun} {n : Nat}

theorem mapRuns_cons (r : CaseRun) (runs : List CaseRun) (n : Nat) :
    mapRuns (r :: runs) n = if r.covers n then r.apply n else mapRuns runs n := by
  rw [mapRuns, List.find?_cons]
  cases r.covers n <;> rfl

theorem mapRuns_eq_self (h : ∀ r ∈ runs, r.covers n = false) : mapRuns runs n = n := by
  have hnone : runs.find? (·.covers n) = none := by simpa using h
  rw [mapRuns, hnone]

/-- A table keeps a code point or maps it by one of its runs. -/
theorem mapRuns_cases (runs : List CaseRun) (n : Nat) :
    mapRuns runs n = n ∨ ∃ r ∈ runs, r.covers n = true ∧ mapRuns runs n = r.apply n := by
  cases hf : runs.find? (·.covers n) with
  | none => exact .inl (by rw [mapRuns, hf])
  | some r =>
    refine .inr ⟨r, List.mem_of_find?_eq_some hf, ?_, by rw [mapRuns, hf]⟩
    exact List.find?_some (p := fun r : CaseRun => r.covers n) hf

def apart : Nat → List CaseRun → Bool
  | _, [] => true
  | seen, r :: rest => seen &&& r.domain == 0 && apart (seen ||| r.domain) rest

theorem mapRuns_of_apart {seen : Nat} (h : apart seen runs = true) (hr : r ∈ runs)
    (hn : r.covers n = true) : seen.testBit n = false ∧ mapRuns runs n = r.apply n := by
  induction runs generalizing seen with
  | nil => cases hr
  | cons s rest ih =>
    rw [apart, Bool.and_eq_true, beq_iff_eq] at h
    obtain ⟨hseen, hrest⟩ := h
    rw [mapRuns_cons]
    rcases List.mem_cons.1 hr with rfl | hr
    · have hbit : (seen &&& r.domain).testBit n = false := by rw [hseen, Nat.zero_testBit]
      rw [Nat.testBit_and, CaseRun.testBit_domain hn, Bool.and_true] at hbit
      exact ⟨hbit, if_pos hn⟩
    · obtain ⟨hbit, hmap⟩ := ih hrest hr
      rw [Nat.testBit_or, Bool.or_eq_false_iff] at hbit
      have hs : ¬ s.covers n = true := fun hs => by simp [CaseRun.testBit_domain hs] at hbit
      exact ⟨hbit.1, by rw [if_neg hs, hmap]⟩

def domains (runs : List CaseRun) : Nat := runs.foldr (fun r bits => r.domain ||| bits) 0

def ranges (runs : List CaseRun) : Nat := runs.foldr (fun r bits => r.range ||| bits) 0

theorem testBit_domains (hr : r ∈ runs) (hn : r.covers n = true) : (domains runs).testBit n = true := by
  induction runs with
  | nil => cases hr
  | cons s rest ih =>
    rw [domains, List.foldr_cons, Nat.testBit_or, Bool.or_eq_true]
    rcases List.mem_cons.1 hr with rfl | hr
    · exact .inl (CaseRun.testBit_domain hn)
    · exact .inr (ih hr)

theorem testBit_ranges (hr : r ∈ runs) (hn : r.covers n = true) :
    (ranges runs).testBit (r.apply n) = true := by
  induction runs with
  | nil => cases hr
  | cons s rest ih =>
    rw [ranges, List.foldr_cons, Nat.testBit_or, Bool.or_eq_true]
    rcases List.mem_cons.1 hr with rfl | hr
    · exact .inl (CaseRun.testBit_range hn)
    · exact .inr (ih hr)

/-- Whether a table maps no code point twice, by two runs or one after the other. -/
def separate (runs : List CaseRun) : Bool := apart 0 runs && ranges runs &&& domains runs == 0

theorem mapRuns_of_covers (h : separate runs = true) (hr : r ∈ runs) (hn : r.covers n = true) :
    mapRuns runs n = r.apply n :=
  (mapRuns_of_apart (Bool.and_eq_true_iff.1 h).1 hr hn).2

theorem mapRuns_apply (h : separate runs = true) (hr : r ∈ runs) (hn : r.covers n = true) :
    mapRuns runs (r.apply n) = r.apply n := by
  apply mapRuns_eq_self
  intro s hs
  rw [Bool.eq_false_iff]
  intro hcovers
  have hand : ranges runs &&& domains runs = 0 := beq_iff_eq.1 (Bool.and_eq_true_iff.1 h).2
  have hbit : (ranges runs &&& domains runs).testBit (r.apply n) = true := by
    rw [Nat.testBit_and, testBit_ranges hr hn, testBit_domains hs hcovers]
    rfl
  rw [hand, Nat.zero_testBit] at hbit
  cases hbit

/-- A code point that was mapped is mapped no further. -/
theorem mapRuns_mapRuns (h : separate runs = true) (n : Nat) :
    mapRuns runs (mapRuns runs n) = mapRuns runs n := by
  rcases mapRuns_cases runs n with hn | ⟨r, hr, hn, hmap⟩
  · rw [hn, hn]
  · rw [hmap, mapRuns_apply h hr hn]

def near (runs : List CaseRun) (lo hi : Nat) : List CaseRun :=
  runs.filter fun r => lo.ble r.last && r.first.ble hi

theorem mapRuns_near {lo hi : Nat} (hlo : lo ≤ n) (hhi : n ≤ hi) :
    mapRuns (near runs lo hi) n = mapRuns runs n := by
  have hcovers (r : CaseRun) :
      decide ((lo.ble r.last && r.first.ble hi) = true ∧ r.covers n = true) = r.covers n := by
    cases hr : r.covers n with
    | false => simp
    | true =>
      obtain ⟨hfirst, hlast, _⟩ := CaseRun.covers_iff.1 hr
      simp only [Bool.and_eq_true, Nat.ble_eq, and_true, decide_eq_true_eq]
      omega
  have hfind : (near runs lo hi).find? (·.covers n) = runs.find? (·.covers n) := by
    rw [near, List.find?_filter]
    exact congrArg (runs.find? ·) (funext hcovers)
  rw [mapRuns, hfind, mapRuns]

def sourceImage (runs : List CaseRun) (r : CaseRun) (n : Nat) : Nat :=
  mapRuns (near runs r.first r.last) n

def imageImage (runs : List CaseRun) (r : CaseRun) (n : Nat) : Nat :=
  mapRuns (near runs r.image (r.image + (r.last - r.first))) n

theorem sourceImage_eq (hn : r.covers n = true) : sourceImage runs r n = mapRuns runs n := by
  obtain ⟨hfirst, hlast, _⟩ := CaseRun.covers_iff.1 hn
  exact mapRuns_near hfirst hlast

theorem imageImage_eq (hn : r.covers n = true) :
    imageImage runs r (r.apply n) = mapRuns runs (r.apply n) := by
  obtain ⟨_, hlast, _⟩ := CaseRun.covers_iff.1 hn
  have hle : n - r.first ≤ r.last - r.first := Nat.sub_le_sub_right hlast r.first
  exact mapRuns_near (Nat.le_add_right _ _) (Nat.add_le_add_left hle _)

end Runs

section Consistency

/-- Whether another table takes the two sides of each pair of a run to the same, or else `ok` holds of
the second side and of what it takes the two to. -/
def keepsPairs (ok : Nat → Nat → Nat → Bool) (other : List CaseRun) (r : CaseRun) : Bool :=
  r.pairs.all fun p =>
    let x := sourceImage other r p.1
    let y := imageImage other r p.2
    x == y || ok p.2 x y

/-- Whether every run of a table is one of another table too, or its pairs are kept by that table. Both
tables are in the order of their first code points, and the runs `ahead` are left to compare with. -/
def consistent (ok : Nat → Nat → Nat → Bool) (other : List CaseRun) :
    List CaseRun → List CaseRun → Bool
  | [], _ => true
  | r :: rest, ahead =>
    let ahead := ahead.dropWhile fun s => s.first < r.first
    (ahead.head? == some r || keepsPairs ok other r) && consistent ok other rest ahead

variable {ok : Nat → Nat → Nat → Bool} {other runs : List CaseRun}

theorem of_consistent {ahead : List CaseRun} (h : consistent ok other runs ahead = true) :
    ∀ r ∈ runs, r ∈ ahead ∨ keepsPairs ok other r = true := by
  induction runs generalizing ahead with
  | nil => exact List.forall_mem_nil _
  | cons r rest ih =>
    simp only [consistent, Bool.and_eq_true, Bool.or_eq_true, beq_iff_eq] at h
    have hsub : (ahead.dropWhile fun s => s.first < r.first) ⊆ ahead := (List.dropWhile_sublist _).subset
    refine List.forall_mem_cons.2 ⟨h.1.imp_left fun hr => ?_, fun s hs => ?_⟩
    · exact hsub (List.mem_of_head? hr)
    · exact (ih h.2 s hs).imp_left fun hs => hsub hs

/-- A run that is in both tables maps to code points that the other table keeps, so in all cases the
other table does not tell a code point from its image unless `ok` holds. -/
theorem mapRuns_of_consistent (hother : separate other = true)
    (h : consistent ok other runs other = true) (n : Nat) :
    mapRuns other n = mapRuns other (mapRuns runs n) ∨
      ok (mapRuns runs n) (mapRuns other n) (mapRuns other (mapRuns runs n)) = true := by
  rcases mapRuns_cases runs n with hn | ⟨r, hr, hn, hmap⟩
  · exact .inl (by rw [hn])
  · rw [hmap]
    rcases of_consistent h r hr with hr | hr
    · exact .inl (by rw [mapRuns_of_covers hother hr hn, mapRuns_apply hother hr hn])
    · have hp := List.all_eq_true.1 hr _ (CaseRun.mem_pairs_of_covers hn)
      simpa only [sourceImage_eq hn, imageImage_eq hn, Bool.or_eq_true, beq_iff_eq] using hp

end Consistency

theorem separate_uppercaseRuns : separate uppercaseRuns = true := by decide +kernel

theorem separate_foldingRuns : separate foldingRuns = true := by decide +kernel

/-- The case variants of a code point are those with the same least one. -/
theorem mem_caseVariants_iff (m n : Nat) : m ∈ caseVariants n ↔ leastVariant m = leastVariant n := by
  rw [caseVariants, List.mem_cons, List.mem_filterMap]
  constructor
  · rintro (rfl | ⟨r, hr, hm⟩)
    · exact mapRuns_mapRuns separate_foldingRuns n
    · rw [CaseRun.source?] at hm
      split at hm
      case isTrue hs =>
        rw [Bool.and_eq_true, decide_eq_true_eq] at hs
        obtain rfl := Option.some.inj hm
        rw [leastVariant, mapRuns_of_covers separate_foldingRuns hr hs.2, CaseRun.apply]
        omega
      case isFalse => cases hm
  · intro h
    rcases mapRuns_cases foldingRuns m with hm | ⟨r, hr, hm, hmap⟩
    · exact .inl (hm.symm.trans h)
    · refine .inr ⟨r, hr, ?_⟩
      have hfirst := (CaseRun.covers_iff.1 hm).1
      have himage : leastVariant n = r.image + (m - r.first) := h.symm.trans hmap
      have hsource : r.first + (leastVariant n - r.image) = m := by omega
      rw [CaseRun.source?, hsource, hm, if_pos]
      simp only [Bool.and_true, decide_eq_true_eq]
      omega

section Disputed

/-- Capitals that upper case and case folding put in different company, each mapped to a letter that
only one of the two takes for the same. -/
def disputedRuns : List CaseRun := [
  ⟨0x49, 0x49, 1, 0x131⟩, ⟨0x4B, 0x4B, 1, 0x212A⟩, ⟨0xC5, 0xC5, 1, 0x212B⟩, ⟨0xDF, 0xDF, 1, 0x1E9E⟩,
  ⟨0x390, 0x390, 1, 0x1FD3⟩, ⟨0x398, 0x398, 1, 0x3F4⟩, ⟨0x3A9, 0x3A9, 1, 0x2126⟩,
  ⟨0x3B0, 0x3B0, 1, 0x1FE3⟩, ⟨0x3F4, 0x3F4, 1, 0x398⟩, ⟨0x1E9E, 0x1E9E, 1, 0xDF⟩,
  ⟨0x1F80, 0x1F87, 1, 0x1F88⟩, ⟨0x1F88, 0x1F8F, 1, 0x1F80⟩, ⟨0x1F90, 0x1F97, 1, 0x1F98⟩,
  ⟨0x1F98, 0x1F9F, 1, 0x1F90⟩, ⟨0x1FA0, 0x1FA7, 1, 0x1FA8⟩, ⟨0x1FA8, 0x1FAF, 1, 0x1FA0⟩,
  ⟨0x1FB3, 0x1FB3, 1, 0x1FBC⟩, ⟨0x1FBC, 0x1FBC, 1, 0x1FB3⟩, ⟨0x1FC3, 0x1FC3, 1, 0x1FCC⟩,
  ⟨0x1FCC, 0x1FCC, 1, 0x1FC3⟩, ⟨0x1FD3, 0x1FD3, 1, 0x390⟩, ⟨0x1FE3, 0x1FE3, 1, 0x3B0⟩,
  ⟨0x1FF3, 0x1FF3, 1, 0x1FFC⟩, ⟨0x1FFC, 0x1FFC, 1, 0x1FF3⟩, ⟨0x2126, 0x2126, 1, 0x3A9⟩,
  ⟨0x212A, 0x212A, 1, 0x4B⟩, ⟨0x212B, 0x212B, 1, 0xC5⟩, ⟨0xA7CE, 0xA7CE, 1, 0xA7CF⟩,
  ⟨0xA7D2, 0xA7D4, 2, 0xA7D3⟩, ⟨0xFB05, 0xFB05, 1, 0xFB06⟩, ⟨0xFB06, 0xFB06, 1, 0xFB05⟩,
  ⟨0x16EA0, 0x16EB8, 1, 0x16EBB⟩
]

def disputed (n : Nat) : Bool := disputedRuns.any (·.covers n)

theorem consistent_uppercaseRuns :
    consistent (fun m _ _ => disputed m) foldingRuns uppercaseRuns foldingRuns = true := by
  decide +kernel

theorem consistent_foldingRuns :
    consistent (fun _ x y => disputed x && disputed y) uppercaseRuns foldingRuns uppercaseRuns = true := by
  decide +kernel

theorem leastVariant_upper (n : Nat) :
    leastVariant n = leastVariant (mapRuns uppercaseRuns n) ∨
      disputed (mapRuns uppercaseRuns n) = true :=
  mapRuns_of_consistent separate_foldingRuns consistent_uppercaseRuns n

theorem upper_leastVariant (n : Nat) :
    mapRuns uppercaseRuns n = mapRuns uppercaseRuns (leastVariant n) ∨
      disputed (mapRuns uppercaseRuns n) = true ∧
        disputed (mapRuns uppercaseRuns (leastVariant n)) = true := by
  rw [← Bool.and_eq_true]
  exact mapRuns_of_consistent separate_uppercaseRuns consistent_foldingRuns n

/-- Away from the disputed capitals, two code points have one upper-case form exactly if they are case
variants. -/
theorem upper_eq_iff_leastVariant_eq {n : Nat} (h : disputed (mapRuns uppercaseRuns n) = false)
    (m : Nat) :
    mapRuns uppercaseRuns n = mapRuns uppercaseRuns m ↔ leastVariant n = leastVariant m := by
  have hnot : ¬ disputed (mapRuns uppercaseRuns n) = true := Bool.eq_false_iff.1 h
  have hfold := (leastVariant_upper n).resolve_right hnot
  have hupper := (upper_leastVariant n).resolve_right fun hd => hnot hd.1
  constructor
  · intro heq
    have hm := (leastVariant_upper m).resolve_right (heq ▸ hnot)
    rw [hfold, hm, heq]
  · intro heq
    -- the least variant is common to both, and its capital is the undisputed one of `n`
    have hm := (upper_leastVariant m).resolve_right fun hd => hnot (by rw [hupper, heq]; exact hd.2)
    rw [hupper, hm, heq]

/-- Whether exactly one of the two tables takes both sides of each pair of a run for one letter. -/
def dividesPairs (r : CaseRun) : Bool :=
  r.pairs.all fun p =>
    (imageImage uppercaseRuns r p.2 == p.1) !=
      (imageImage foldingRuns r p.2 == sourceImage foldingRuns r p.1)

theorem all_dividesPairs : disputedRuns.all dividesPairs = true := by decide +kernel

theorem exists_pair_of_disputed {n : Nat} (h : disputed n = true) :
    ∃ m, (∃ r ∈ disputedRuns, (n, m) ∈ r.pairs) ∧
      ¬ (mapRuns uppercaseRuns m = n ↔ leastVariant m = leastVariant n) := by
  obtain ⟨r, hr, hn⟩ := List.any_eq_true.1 h
  have hp := CaseRun.mem_pairs_of_covers hn
  refine ⟨r.apply n, ⟨r, hr, hp⟩, ?_⟩
  have hdiv := List.all_eq_true.1 (List.all_eq_true.1 all_dividesPairs r hr) _ hp
  rw [imageImage_eq hn, imageImage_eq hn, sourceImage_eq hn] at hdiv
  intro hiff
  rw [← leastVariant, ← leastVariant, bne_iff_ne, ne_eq, Bool.eq_iff_iff, beq_iff_eq, beq_iff_eq] at hdiv
  exact hdiv hiff

end Disputed

section Characters

theorem toNat_ofNat {n : Nat} (h : n.isValidChar) : (Char.ofNat n).toNat = n := by
  rw [Char.ofNat, dif_pos h]
  rfl

theorem scalar_images : ∀ r ∈ uppercaseRuns, r.image + (r.last - r.first) < 0xD800 ∨
    0xDFFF < r.image ∧ r.image + (r.last - r.first) < 0x110000 := by decide +kernel

theorem toNat_upper (c : Char) : (upper c).toNat = mapRuns uppercaseRuns c.toNat := by
  refine toNat_ofNat ?_
  rcases mapRuns_cases uppercaseRuns c.toNat with h | ⟨r, hr, hn, hmap⟩
  · rw [h]
    exact c.valid
  · obtain ⟨_, hlast, _⟩ := CaseRun.covers_iff.1 hn
    rw [hmap, CaseRun.apply]
    rcases scalar_images r hr with hscalar | ⟨hlow, hhigh⟩
    · exact .inl (by omega)
    · exact .inr ⟨by omega, by omega⟩

theorem upper_upper (c : Char) : upper (upper c) = upper c := by
  rw [← Char.toNat_inj, toNat_upper, toNat_upper, mapRuns_mapRuns separate_uppercaseRuns]

/-- Away from the disputed capitals, characters have one upper-case form exactly if they are case
variants. -/
theorem upper_eq_iff_of_not_disputed {c : Char} (h : disputed (upper c).toNat = false) (d : Char) :
    upper c = upper d ↔ leastVariant c.toNat = leastVariant d.toNat := by
  rw [toNat_upper] at h
  rw [← Char.toNat_inj, toNat_upper, toNat_upper]
  exact upper_eq_iff_leastVariant_eq h d.toNat

theorem disputedRuns_not_blank : ∀ r ∈ disputedRuns, ∀ p ∈ r.pairs,
    Text.blank (Char.ofNat p.1) = false ∧ Text.blank (Char.ofNat p.2) = false ∧ p.2.isValidChar := by
  decide +kernel

/-- Every character with a disputed capital has a rival that just one of the two comparisons takes for
the same letter. -/
theorem exists_rival {c : Char} (h : disputed (upper c).toNat = true) :
    ∃ d, Text.blank d = false ∧
      ¬ (upper c = upper d ↔ leastVariant c.toNat = leastVariant d.toNat) := by
  obtain ⟨m, ⟨r, hr, hp⟩, hdiv⟩ := exists_pair_of_disputed h
  obtain ⟨hblank, hblank', hvalid⟩ := disputedRuns_not_blank r hr _ hp
  by_cases hfold : leastVariant c.toNat = leastVariant (upper c).toNat
  · refine ⟨Char.ofNat m, hblank', fun hiff => hdiv ?_⟩
    rw [← Char.toNat_inj, toNat_upper (Char.ofNat m), toNat_ofNat hvalid, hfold] at hiff
    rw [eq_comm, hiff, eq_comm]
  · -- folding already parts the character from its own capital
    refine ⟨upper c, ?_, fun hiff => hfold (hiff.1 (upper_upper c).symm)⟩
    rwa [Char.ofNat_toNat] at hblank

end Characters

end RegionNaming.Unicode
