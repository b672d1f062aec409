import Mathlib.Data.List.DropRight
import Mathlib.Data.List.TakeWhile
import RegionNaming.Text.Blank
import RegionNaming.Text.Split

/-! Laws of trimming and cutting texts. Trimming is blind to blanks at the ends, and the pieces of a
text are those of the library's own split. -/

namespace RegionNaming.Text

abbrev AllBlank (cs : List Char) : Prop := ∀ c ∈ cs, blank c

theorem trimFront_eq_nil_iff (cs : List Char) : trimFront cs = [] ↔ AllBlank cs :=
  List.dropWhile_eq_nil_iff

/-- Only the front of a text that is not blank is trimmed, whatever stands behind it. -/
theorem trimFront_append_of_not_blank {cs : List Char} (h : ¬ AllBlank cs) (bs : List Char) :
    trimFront (cs ++ bs) = trimFront cs ++ bs := by
  have hne : ¬ (cs.dropWhile blank).isEmpty := by
    rw [List.isEmpty_iff]
    exact fun he => h ((trimFront_eq_nil_iff cs).1 he)
  rw [trimFront, List.dropWhile_append, if_neg hne, trimFront]

/-- The blanks at the front of a text that is not blank end within it. -/
theorem takeWhile_append_of_not_blank {cs : List Char} (h : ¬ AllBlank cs) (bs : List Char) :
    (cs ++ bs).takeWhile blank = cs.takeWhile blank := by
  rw [List.takeWhile_append, if_neg]
  intro hl
  have hcs : cs.takeWhile blank = cs := (List.takeWhile_prefix blank).eq_of_length hl
  exact h (List.takeWhile_eq_self_iff.1 hcs)

theorem trimBack_eq_nil_iff (cs : List Char) : trimBack cs = [] ↔ AllBlank cs :=
  List.rdropWhile_eq_nil_iff

theorem trimBack_append_of_blank (cs : List Char) {bs : List Char} (h : AllBlank bs) :
    trimBack (cs ++ bs) = trimBack cs := by
  have hr : AllBlank bs.reverse := fun c hc => h c (List.mem_reverse.1 hc)
  rw [trimBack, List.reverse_append, List.dropWhile_append_of_pos hr, trimBack]

theorem trimChars_eq_nil_iff (cs : List Char) : trimChars cs = [] ↔ AllBlank cs := by
  rw [trimChars, trimBack_eq_nil_iff]
  constructor
  · intro h
    have hsplit : cs.takeWhile blank ++ trimFront cs = cs := List.takeWhile_append_dropWhile
    intro c hc
    rw [← hsplit] at hc
    rcases List.mem_append.1 hc with hc | hc
    · exact List.mem_takeWhile_imp hc
    · exact h c hc
  · intro h
    rw [(trimFront_eq_nil_iff cs).2 h]
    exact fun c hc => absurd hc List.not_mem_nil

/-- Blanks behind a text are not seen by trimming. -/
theorem trimChars_append_of_blank (cs : List Char) {bs : List Char} (h : AllBlank bs) :
    trimChars (cs ++ bs) = trimChars cs := by
  by_cases hc : AllBlank cs
  · have hcb : AllBlank (cs ++ bs) := fun c hm => (List.mem_append.1 hm).elim (hc c) (h c)
    rw [(trimChars_eq_nil_iff _).2 hcb, (trimChars_eq_nil_iff _).2 hc]
  · rw [trimChars, trimFront_append_of_not_blank hc, trimBack_append_of_blank _ h, trimChars]

/-- Blanks before a text are not seen by trimming. -/
theorem trimChars_of_blank_append {bs : List Char} (h : AllBlank bs) (cs : List Char) :
    trimChars (bs ++ cs) = trimChars cs := by
  rw [trimChars, trimFront, List.dropWhile_append_of_pos h, ← trimFront, trimChars]

theorem trimChars_of_ends {a b : Char} (ha : blank a = false) (hb : blank b = false) (cs : List Char) :
    trimChars (a :: (cs ++ [b])) = a :: (cs ++ [b]) := by
  simp [trimChars, trimFront, trimBack, ha, hb]

theorem mem_of_mem_trimChars {c : Char} {cs : List Char} (h : c ∈ trimChars cs) : c ∈ cs := by
  have hf : c ∈ trimFront cs := by
    rw [trimChars, trimBack, List.mem_reverse] at h
    exact List.mem_reverse.1 ((List.dropWhile_sublist blank).mem h)
  exact (List.dropWhile_sublist blank).mem hf

/-- Trimming takes blanks only. -/
theorem mem_trimChars_of_not_blank {c : Char} {cs : List Char} (h : c ∈ cs) (hc : blank c = false) :
    c ∈ trimChars cs := by
  have hdrop {ds : List Char} (hd : c ∈ ds) : c ∈ ds.dropWhile blank := by
    rw [← List.takeWhile_append_dropWhile (p := blank) (l := ds)] at hd
    rcases List.mem_append.1 hd with hd | hd
    · rw [List.mem_takeWhile_imp hd] at hc
      cases hc
    · exact hd
  exact List.mem_reverse.2 (hdrop (List.mem_reverse.2 (hdrop h)))

theorem trimBack_cons_of_not_blank {c : Char} (hc : blank c = false) (cs : List Char) :
    trimBack (c :: cs) = c :: trimBack cs := by
  rw [trimBack, List.reverse_cons, List.dropWhile_append]
  split
  case isTrue h => simp [trimBack, hc, List.isEmpty_iff.1 h]
  case isFalse => simp [trimBack]

theorem trimBack_append_of_not_blank {as : List Char} (h : ∀ c ∈ as, blank c = false) (cs : List Char) :
    trimBack (as ++ cs) = as ++ trimBack cs := by
  induction as with
  | nil => rfl
  | cons c as ih =>
    obtain ⟨hc, has⟩ := List.forall_mem_cons.1 h
    rw [List.cons_append, trimBack_cons_of_not_blank hc, ih has, List.cons_append]

theorem not_blank_of_head?_dropWhile {c : Char} {cs : List Char} (h : c ∈ (cs.dropWhile blank).head?) :
    blank c = false := by
  have hhead := List.head?_dropWhile_not blank cs
  rwa [Option.mem_def.1 h] at hhead

theorem trimFront_trimChars (cs : List Char) : trimFront (trimChars cs) = trimChars cs := by
  rw [trimChars]
  cases hf : trimFront cs with
  | nil => rfl
  | cons c rest =>
    have hhead : c ∈ (cs.dropWhile blank).head? := by
      rw [← trimFront, hf]
      rfl
    have hc : blank c = false := not_blank_of_head?_dropWhile hhead
    rw [trimBack_cons_of_not_blank hc, trimFront, List.dropWhile_cons_of_neg (by simp [hc])]

@[simp] theorem trimChars_trimChars (cs : List Char) : trimChars (trimChars cs) = trimChars cs := by
  rw [trimChars, trimFront_trimChars, trimChars]
  exact List.rdropWhile_idempotent blank _

/-- A trimmed text stays trimmed behind characters that are no blanks. -/
theorem trimChars_append_trimChars {as : List Char} (h : ∀ c ∈ as, blank c = false) (cs : List Char) :
    trimChars (as ++ trimChars cs) = as ++ trimChars cs := by
  have hfront : trimFront (as ++ trimChars cs) = as ++ trimChars cs := by
    cases as with
    | nil => exact trimFront_trimChars cs
    | cons c as => simp [trimFront, h c]
  have hback : trimBack (trimChars cs) = trimChars cs := List.rdropWhile_idempotent blank _
  rw [trimChars, hfront, trimBack_append_of_not_blank h, hback]

@[simp] theorem trim_trim (s : String) : trim (trim s) = trim s := by
  apply String.toList_injective
  rw [toList_trim, toList_trim, trimChars_trimChars]

/-- `core` is what is left of a text without the blanks at its ends: nothing but blanks stands around
it, and it neither starts nor ends with one. -/
structure TrimmedTo (cs core : List Char) : Prop where
  around : ∃ front back, cs = front ++ core ++ back ∧ AllBlank front ∧ AllBlank back
  head_not_blank : ∀ c ∈ core.head?, blank c = false
  last_not_blank : ∀ c ∈ core.getLast?, blank c = false

theorem trimmedTo_trimChars (cs : List Char) : TrimmedTo cs (trimChars cs) := by
  refine ⟨⟨cs.takeWhile blank, (trimFront cs).rtakeWhile blank, ?_, ?_, ?_⟩, ?_, ?_⟩
  · have hback : trimChars cs ++ (trimFront cs).rtakeWhile blank = trimFront cs :=
      List.rdropWhile_append_rtakeWhile
    rw [List.append_assoc, hback, trimFront, List.takeWhile_append_dropWhile]
  · exact fun c hc => List.mem_takeWhile_imp hc
  · exact fun c hc => List.mem_rtakeWhile_imp hc
  · intro c hc
    rw [← trimFront_trimChars] at hc
    exact not_blank_of_head?_dropWhile hc
  · intro c hc
    rw [trimChars, trimBack, List.getLast?_reverse] at hc
    exact not_blank_of_head?_dropWhile hc

theorem isBlank_iff (s : String) : isBlank s = true ↔ AllBlank s.toList := by
  simp [isBlank, AllBlank]

theorem trim_append_of_blank (s : String) {b : String} (h : isBlank b = true) : trim (s ++ b) = trim s := by
  apply String.toList_injective
  rw [toList_trim, toList_trim, String.toList_append, trimChars_append_of_blank _ ((isBlank_iff b).1 h)]

theorem trim_of_blank_append {b : String} (h : isBlank b = true) (s : String) : trim (b ++ s) = trim s := by
  apply String.toList_injective
  rw [toList_trim, toList_trim, String.toList_append, trimChars_of_blank_append ((isBlank_iff b).1 h)]

/-- Blank texts are those of which trimming leaves nothing. -/
theorem trim_eq_empty_iff (s : String) : trim s = "" ↔ isBlank s = true := by
  rw [isBlank_iff, ← trimChars_eq_nil_iff, ← toList_trim]
  exact ⟨fun h => by rw [h]; rfl, fun h => String.toList_injective h⟩

/-- The pieces of a text are those of the library's split. -/
theorem pieces_eq_splitOnP (sep : Char → Bool) (cs : List Char) :
    pieces sep cs = cs.splitOnP sep := by
  induction cs with
  | nil => simp [pieces]
  | cons c cs ih =>
    obtain ⟨p, ps, hp⟩ := List.exists_cons_of_ne_nil (List.splitOnP_ne_nil sep cs)
    rw [pieces, List.splitOnP_cons_eq_if_modifyHead, ih, hp]
    rfl

/-- A text that is joined at a separator has the pieces of both its parts. -/
theorem pieces_append_cons {sep : Char → Bool} {d : Char} (hd : sep d = true) (as bs : List Char) :
    pieces sep (as ++ d :: bs) = pieces sep as ++ pieces sep bs := by
  simp only [pieces_eq_splitOnP, List.splitOnP_append_cons as bs hd]

theorem pieces_of_not_sep {sep : Char → Bool} {cs : List Char} (h : ∀ c ∈ cs, sep c = false) :
    pieces sep cs = [cs] := by
  induction cs with
  | nil => rfl
  | cons c cs ih =>
    obtain ⟨hc, hcs⟩ := List.forall_mem_cons.1 h
    simp [pieces, hc, ih hcs]

/-- No piece of a text holds a separator. -/
theorem not_sep_of_mem_pieces {sep : Char → Bool} {cs piece : List Char} (h : piece ∈ pieces sep cs) :
    ∀ c ∈ piece, sep c = false := by
  induction cs generalizing piece with
  | nil =>
    obtain rfl : piece = [] := by simpa [pieces] using h
    exact List.forall_mem_nil _
  | cons c cs ih =>
    rw [pieces] at h
    split at h
    case isTrue =>
      rcases List.mem_cons.1 h with rfl | h
      · exact List.forall_mem_nil _
      · exact ih h
    case isFalse hc =>
      obtain ⟨p, ps, hp⟩ := List.exists_cons_of_ne_nil (pieces_ne_nil sep cs)
      rw [hp] at ih
      simp only [hp, List.mem_cons] at h
      rcases h with rfl | h
      · exact List.forall_mem_cons.2 ⟨Bool.eq_false_iff.2 hc, ih List.mem_cons_self⟩
      · exact ih (List.mem_cons_of_mem _ h)

theorem after?_eq_some_iff (word cs rest : List Char) :
    after? word cs = some rest ↔ cs = word ++ rest := by
  fun_induction after? word cs with
  | case1 cs => simp
  | case2 => simp
  | case3 w ws cs ih => simpa using ih
  | case4 w ws c cs hne => simp [Ne.symm hne]

theorem cutAt_eq_none_iff (mark : Char) (cs : List Char) : cutAt mark cs = none ↔ mark ∉ cs := by
  induction cs with
  | nil => simp [cutAt]
  | cons c cs ih =>
    by_cases hc : c = mark
    · simp [cutAt, hc]
    · simp [cutAt, hc, Ne.symm hc, ih]

/-- A text is cut at its first mark. -/
theorem cutAt_eq_some_iff (mark : Char) (cs front back : List Char) :
    cutAt mark cs = some (front, back) ↔ cs = front ++ mark :: back ∧ mark ∉ front := by
  induction cs generalizing front with
  | nil => simp [cutAt]
  | cons c cs ih =>
    by_cases hc : c = mark
    · subst hc
      cases front with
      | nil => simp [cutAt, eq_comm]
      | cons d front =>
        simp only [cutAt, if_true, Option.some.injEq, Prod.mk.injEq, reduceCtorEq, false_and,
          List.cons_append, List.cons.injEq, List.mem_cons, not_or, false_iff]
        exact fun h => h.2.1 h.1.1
    · cases front with
      | nil => simp [cutAt, hc]
      | cons d front =>
        have hi := ih front
        simp only [cutAt, if_neg hc, Option.map_eq_some_iff, Prod.mk.injEq, List.cons.injEq,
          Prod.exists, List.cons_append, List.mem_cons, not_or]
        constructor
        · rintro ⟨a, b, hab, ⟨rfl, rfl⟩, rfl⟩
          obtain ⟨hcs, hm⟩ := hi.1 hab
          exact ⟨⟨rfl, hcs⟩, Ne.symm hc, hm⟩
        · rintro ⟨⟨rfl, hcs⟩, _, hm⟩
          exact ⟨front, back, hi.2 ⟨hcs, hm⟩, ⟨rfl, rfl⟩, rfl⟩

/-- The first mark of a text settles where it is cut. -/
theorem append_mark_inj {mark : Char} {a b x y : List Char} (ha : mark ∉ a) (hb : mark ∉ b)
    (h : a ++ mark :: x = b ++ mark :: y) : a = b ∧ x = y := by
  have hx : cutAt mark (a ++ mark :: x) = some (a, x) := (cutAt_eq_some_iff ..).2 ⟨rfl, ha⟩
  have hy : cutAt mark (a ++ mark :: x) = some (b, y) := (cutAt_eq_some_iff ..).2 ⟨h, hb⟩
  exact Prod.mk.inj (Option.some.inj (hx.symm.trans hy))

end RegionNaming.Text
