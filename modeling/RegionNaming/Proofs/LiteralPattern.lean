import Mathlib.Data.List.Forall2
import Mathlib.Data.Nat.Bitwise
import RegionNaming.Pattern.Match
import RegionNaming.Pattern.Meaning
import RegionNaming.Proofs.CaseTables
import RegionNaming.Proofs.CodeSets

/-! Patterns that spell a text out. A pattern of characters without a meaning of their own occurs in
exactly the texts with a part that has the same letters one by one, and tied to both ends in exactly the
texts that have them as a whole. -/

namespace RegionNaming.Pattern

open Unicode

section Places

variable (mask places i : Nat)

theorem testBit_two_mul_add_succ (n : Nat) (b : Bool) (i : Nat) :
    (2 * n + b.toNat).testBit (i + 1) = n.testBit i := by
  have hdiv : (2 * n + b.toNat) / 2 = n := by
    have hb := b.toNat_lt
    omega
  rw [Nat.testBit_succ, hdiv]

theorem testBit_two_mul_add_zero (n : Nat) (b : Bool) : (2 * n + b.toNat).testBit 0 = b := by
  cases b <;> simp [Nat.testBit_zero]

@[simp] theorem testBit_advance_zero : (advance mask places).testBit 0 = false := by
  simp [advance, Nat.testBit_zero]

@[simp] theorem testBit_advance_succ :
    (advance mask places).testBit (i + 1) = (places.testBit i && mask.testBit i) := by
  rw [advance, ← Nat.testBit_and]
  exact testBit_two_mul_add_succ (places &&& mask) false i

theorem testBit_charPlaces (p : Char → Bool) (text : List Char) (i : Nat) :
    (charPlaces p text).testBit i = (text[i]?).any p := by
  induction text generalizing i with
  | nil => simp [charPlaces]
  | cons c cs ih =>
    cases i with
    | zero => exact testBit_two_mul_add_zero _ _
    | succ i => rw [charPlaces, testBit_two_mul_add_succ, ih, List.getElem?_cons_succ]

theorem lookPlaces_textStart_some (before : Char) (text : List Char) :
    lookPlaces .textStart (some before) text = 0 := by
  induction text generalizing before with
  | nil => rfl
  | cons c cs ih => rw [lookPlaces, ih]; rfl

/-- Only the first place is at the start of the text. -/
theorem testBit_textStart (text : List Char) (i : Nat) :
    (lookPlaces .textStart none text).testBit i = decide (i = 0) := by
  have hone : lookPlaces .textStart none text = 1 := by
    cases text with
    | nil => rfl
    | cons c cs => rw [lookPlaces, lookPlaces_textStart_some]; rfl
  rw [hone, Bool.eq_iff_iff, Nat.testBit_one_eq_true_iff_self_eq_zero, decide_eq_true_eq]

/-- Only the last place is at the end of the text. -/
theorem testBit_textEnd (before : Option Char) (text : List Char) (i : Nat) :
    (lookPlaces .textEnd before text).testBit i = decide (i = text.length) := by
  induction text generalizing before i with
  | nil =>
    have hone : lookPlaces .textEnd before [] = 1 := rfl
    rw [hone, Bool.eq_iff_iff, Nat.testBit_one_eq_true_iff_self_eq_zero, decide_eq_true_eq]
    rfl
  | cons c cs ih =>
    cases i with
    | zero =>
      rw [lookPlaces, testBit_two_mul_add_zero]
      rfl
    | succ i =>
      rw [lookPlaces, testBit_two_mul_add_succ, ih]
      simp

end Places

section Sequences

variable (text : List Char)

@[simp] theorem follow_routeSeq_nil (places : Nat) : (Expr.routeSeq text []).follow places = places := rfl

@[simp] theorem follow_routeSeq_cons (e : Expr) (es : List Expr) (places : Nat) :
    (Expr.routeSeq text (e :: es)).follow places =
      (Expr.routeSeq text es).follow ((e.route text).follow places) := rfl

theorem follow_routeSeq_append (as bs : List Expr) (places : Nat) :
    (Expr.routeSeq text (as ++ bs)).follow places =
      (Expr.routeSeq text bs).follow ((Expr.routeSeq text as).follow places) := by
  induction as generalizing places with
  | nil => rfl
  | cons a as ih => exact ih _

theorem follow_literal_cons (c : Char) (cs : List Char) (places : Nat) :
    ((Expr.literal (c :: cs)).route text).follow places =
      ((Expr.literal cs).route text).follow (advance (charPlaces (· == c) text) places) := rfl

theorem follow_literal_append (as bs : List Char) (places : Nat) :
    ((Expr.literal (as ++ bs)).route text).follow places =
      ((Expr.literal bs).route text).follow (((Expr.literal as).route text).follow places) := by
  induction as generalizing places with
  | nil => rfl
  | cons a as ih => rw [List.cons_append, follow_literal_cons, ih, follow_literal_cons]

/-- Texts that grow together lead to the same places as one behind the other. -/
theorem follow_consPart (e : Expr) (parts : List Expr) (places : Nat) :
    (Expr.routeSeq text (Expr.consPart e parts)).follow places =
      (Expr.routeSeq text (e :: parts)).follow places := by
  unfold Expr.consPart
  split
  · rfl
  · simp only [follow_routeSeq_cons, follow_literal_append]
  · rfl

theorem follow_foldr_consPart (es parts : List Expr) (places : Nat) :
    (Expr.routeSeq text (es.foldr Expr.consPart parts)).follow places =
      (Expr.routeSeq text (es ++ parts)).follow places := by
  induction es generalizing places with
  | nil => rfl
  | cons e es ih => rw [List.foldr_cons, follow_consPart, follow_routeSeq_cons, ih]; rfl

theorem follow_seqParts (es : List Expr) (places : Nat) :
    (Expr.routeSeq text (Expr.seqParts es)).follow places = (Expr.routeSeq text es).follow places := by
  fun_induction Expr.seqParts es generalizing places with
  | case1 => rfl
  | case2 inner rest ih =>
    rw [follow_foldr_consPart, follow_routeSeq_append, ih, follow_routeSeq_cons, Expr.route]
  | case3 e rest hne ih => rw [follow_consPart, follow_routeSeq_cons, ih, follow_routeSeq_cons]

/-- A sequence in simplified form leads to the same places as its parts one after another. -/
theorem follow_ofSeq (es : List Expr) (places : Nat) :
    ((Expr.ofSeq es).route text).follow places = (Expr.routeSeq text es).follow places := by
  rw [← follow_seqParts, Expr.ofSeq]
  split
  case h_1 h => rw [h]; rfl
  case h_2 e h => rw [h]; rfl
  case h_3 => rw [Expr.route]

end Sequences

section Spelling

def Modes.same (m : Modes) (c d : Char) : Bool :=
  if m.ignoreCase then leastVariant c.toNat == leastVariant d.toNat else d == c

variable {m : Modes} (hu : m.unicode = true) (text : List Char)
include hu

/-- The character of a pattern moves on over the characters that may stand for it. -/
theorem follow_charExpr (c : Char) (places : Nat) :
    ((m.charExpr c).route text).follow places = advance (charPlaces (m.same c) text) places := by
  cases hi : m.ignoreCase with
  | false =>
    have hsame : m.same c = (· == c) := funext fun d => by simp [Modes.same, hi]
    simp [Modes.charExpr, hi, hsame, Expr.route, Route.follow]
  | true =>
    have hsame (d : Char) : m.same c d = true ↔ d.toNat ∈ caseVariants c.toNat := by
      rw [mem_caseVariants_iff, Modes.same, hi, if_pos rfl, beq_iff_eq, eq_comm]
    have hcodes : (if m.unicode then caseVariants c.toNat else asciiVariants c) =
        caseVariants c.toNat := if_pos hu
    rw [Modes.charExpr, hcodes, hi]
    simp only [Bool.not_true, Bool.false_eq_true, if_false]
    split
    case h_1 n hn =>
      have hc : c.toNat = n := by
        have hmem : c.toNat ∈ caseVariants c.toNat := (mem_caseVariants_iff _ _).2 rfl
        rwa [hn, List.mem_singleton] at hmem
      have hone : m.same c = (· == c) := by
        funext d
        rw [Bool.eq_iff_iff, hsame, hn, List.mem_singleton, ← hc, Char.toNat_inj, beq_iff_eq]
      rw [hone]
      rfl
    case h_2 =>
      have hset : m.same c = fun d => (CodeSet.ofCodes (caseVariants c.toNat)).contains d.toNat := by
        funext d
        rw [Bool.eq_iff_iff, hsame, CodeSet.contains_ofCodes]
      rw [hset]
      rfl

/-- Characters in a row lead from each place behind the texts that spell them there. -/
theorem testBit_follow_chars (cs : List Char) (places j : Nat) :
    ((Expr.routeSeq text (cs.map m.charExpr)).follow places).testBit j = true ↔
      ∃ i word rest, places.testBit i = true ∧ j = i + cs.length ∧ text.drop i = word ++ rest ∧
        List.Forall₂ (fun c d => m.same c d = true) cs word := by
  induction cs generalizing places with
  | nil =>
    constructor
    · intro h
      exact ⟨j, [], text.drop j, h, rfl, rfl, .nil⟩
    · rintro ⟨i, word, rest, hi, rfl, _, _⟩
      exact hi
  | cons c cs ih =>
    rw [List.map_cons, follow_routeSeq_cons, follow_charExpr hu, ih]
    constructor
    · rintro ⟨i, word, rest, hi, rfl, hdrop, hword⟩
      cases i with
      | zero =>
        rw [testBit_advance_zero] at hi
        cases hi
      | succ i =>
        rw [testBit_advance_succ, testBit_charPlaces, Bool.and_eq_true] at hi
        obtain ⟨d, hd, hsame⟩ := (Option.any_eq_true _ _).1 hi.2
        obtain ⟨hlt, rfl⟩ := List.getElem?_eq_some_iff.1 hd
        refine ⟨i, text[i] :: word, rest, hi.1, ?_, ?_, .cons hsame hword⟩
        · rw [List.length_cons]
          omega
        · rw [List.drop_eq_getElem_cons hlt, hdrop, List.cons_append]
    · rintro ⟨i, _, rest, hi, rfl, hdrop, hall⟩
      obtain ⟨d, word, hsame, hword, rfl⟩ := List.forall₂_cons_left_iff.1 hall
      have hd : text[i]? = some d := by
        rw [← List.head?_drop, hdrop]
        rfl
      have htail : text.drop (i + 1) = word ++ rest := by
        rw [← List.tail_drop, hdrop]
        rfl
      refine ⟨i + 1, word, rest, ?_, ?_, htail, hword⟩
      · rw [testBit_advance_succ, testBit_charPlaces, hi, hd]
        exact hsame
      · rw [List.length_cons]
        omega

/-- A pattern that is tied to both ends and has one character after another between them occurs in the
texts with as many characters, each the same as its own. -/
theorem occursIn_spelled (cs : List Char) :
    (Expr.ofSeq (.look .textStart :: (cs.map m.charExpr ++ [.look .textEnd]))).occursIn text = true ↔
      List.Forall₂ (fun c d => m.same c d = true) cs text := by
  have hstart (i : Nat) :
      (((Expr.look .textStart).route text).follow (2 ^ (text.length + 1) - 1)).testBit i = true ↔
        i = 0 := by
    rw [Expr.route, Route.follow, Nat.testBit_and, testBit_textStart, Nat.testBit_two_pow_sub_one]
    simp only [Bool.and_eq_true, decide_eq_true_eq, and_iff_right_iff_imp]
    omega
  have hend (places j : Nat) :
      ((Expr.routeSeq text [.look .textEnd]).follow places).testBit j = true ↔
        places.testBit j = true ∧ j = text.length := by
    rw [follow_routeSeq_cons, follow_routeSeq_nil, Expr.route, Route.follow, Nat.testBit_and,
      testBit_textEnd, Bool.and_eq_true, decide_eq_true_eq]
  have hpow : Nat.pow 2 (text.length + 1) = 2 ^ (text.length + 1) := rfl
  rw [Expr.occursIn, hpow, decide_eq_true_eq, follow_ofSeq, follow_routeSeq_cons,
    follow_routeSeq_append]
  constructor
  · intro h
    obtain ⟨j, hj⟩ := Nat.exists_testBit_of_ne_zero h
    obtain ⟨hchars, rfl⟩ := (hend _ _).1 hj
    obtain ⟨i, word, rest, hi, hlen, hdrop, hword⟩ := (testBit_follow_chars hu text cs _ _).1 hchars
    obtain rfl := (hstart i).1 hi
    have hrest : rest = [] := by
      have hl := hword.length_eq
      have ht := congrArg List.length hdrop
      rw [List.drop_zero, List.length_append] at ht
      exact List.length_eq_zero_iff.1 (by omega)
    rw [List.drop_zero, hrest, List.append_nil] at hdrop
    rwa [hdrop]
  · intro h
    have hchars := (testBit_follow_chars hu text cs _ text.length).2
      ⟨0, text, [], (hstart 0).2 rfl, ?_, ?_, h⟩
    · have hbit := (hend _ _).2 ⟨hchars, rfl⟩
      intro hzero
      rw [hzero, Nat.zero_testBit] at hbit
      cases hbit
    · rw [h.length_eq, Nat.zero_add]
    · rw [List.drop_zero, List.append_nil]

/-- A pattern of one character after another occurs in the texts with a part of as many characters, each
the same as its own. -/
theorem occursIn_chars {e : Expr} {cs : List Char}
    (he : ∀ places, (e.route text).follow places =
      (Expr.routeSeq text (cs.map m.charExpr)).follow places) :
    e.occursIn text = true ↔
      ∃ word, word <:+: text ∧ List.Forall₂ (fun c d => m.same c d = true) cs word := by
  have hpow : Nat.pow 2 (text.length + 1) = 2 ^ (text.length + 1) := rfl
  rw [Expr.occursIn, hpow, decide_eq_true_eq, he]
  constructor
  · intro h
    obtain ⟨j, hj⟩ := Nat.exists_testBit_of_ne_zero h
    obtain ⟨i, word, rest, _, _, hdrop, hword⟩ := (testBit_follow_chars hu text cs _ _).1 hj
    refine ⟨word, ⟨text.take i, rest, ?_⟩, hword⟩
    rw [List.append_assoc, ← hdrop, List.take_append_drop]
  · rintro ⟨word, ⟨before, rest, htext⟩, hword⟩
    have hstart : (2 ^ (text.length + 1) - 1).testBit before.length = true := by
      have hlen := congrArg List.length htext
      rw [List.length_append, List.length_append] at hlen
      rw [Nat.testBit_two_pow_sub_one, decide_eq_true_eq]
      omega
    have hdrop : text.drop before.length = word ++ rest := by
      rw [← htext, List.append_assoc, List.drop_left]
    have hbit := (testBit_follow_chars hu text cs _ _).2
      ⟨before.length, word, rest, hstart, rfl, hdrop, hword⟩
    intro hzero
    rw [hzero, Nat.zero_testBit] at hbit
    cases hbit

end Spelling

section Reading

open Reader

def special : List Char := ['\\', '.', '^', '$', '|', '(', ')', '[', '\x7b', '?', '*', '+']

variable {fuel : Nat} {st : State} (hst : st.spaced = false) (branches done : List Term)
include hst

/-- A character without a meaning of its own stands for itself. -/
theorem terms_of_not_special {c : Char} (hc : c ∉ special) (rest : List Char) :
    terms false (fuel + 1) st branches done (c :: rest) =
      terms false fuel st branches (.mark ⟨c, false⟩ :: done) rest := by
  have hskip : skip st.spaced (c :: rest) = c :: rest := by rw [hst]; rfl
  simp only [special, List.mem_cons, List.not_mem_nil, or_false, not_or] at hc
  rw [terms, hskip]
  simp [hc, primitive]

theorem terms_of_marks {cs : List Char} (hcs : ∀ c ∈ cs, c ∉ special) (rest : List Char) :
    terms false (cs.length + fuel) st branches done (cs ++ rest) =
      terms false fuel st branches ((cs.map fun c => .mark ⟨c, false⟩).reverse ++ done) rest := by
  induction cs generalizing done with
  | nil => simp
  | cons c cs ih =>
    obtain ⟨hc, hcs⟩ := List.forall_mem_cons.1 hcs
    have hlen : (c :: cs).length + fuel = cs.length + fuel + 1 := by
      rw [List.length_cons]
      omega
    rw [hlen, List.cons_append, terms_of_not_special hst branches done hc, ih _ hcs]
    simp

end Reading

section Source

def markTerms (cs : List Char) : List Term := cs.map fun c => .mark ⟨c, false⟩

theorem depthAll_markTerms_append (cs : List Char) (rest : List Term) :
    Term.depthAll (markTerms cs ++ rest) = Term.depthAll rest := by
  induction cs with
  | nil => rfl
  | cons c cs ih =>
    change max 0 (Term.depthAll (markTerms cs ++ rest)) = _
    rw [ih, Nat.zero_max]

theorem simplifyAll_markTerms_append (cs : List Char) {rest : List Term} {es : List Expr} {ignoreCase : Bool}
    (h : Term.simplifyAll { ignoreCase } rest = some (es, { ignoreCase })) :
    Term.simplifyAll { ignoreCase } (markTerms cs ++ rest) =
      some (cs.map (Modes.charExpr { ignoreCase }) ++ es, { ignoreCase }) := by
  induction cs with
  | nil => exact h
  | cons c cs ih =>
    rw [markTerms] at ih
    simp [markTerms, Term.simplifyAll, Term.simplify, Modes.char?, ih]

def spelledTerms (cs : List Char) : List Term :=
  .anchor .lineStart :: (cs.map (fun c => .mark ⟨c, false⟩) ++ [.anchor .lineEnd])

theorem depthAll_spelledTerms (cs : List Char) : Term.depthAll (spelledTerms cs) = 0 := by
  rw [spelledTerms, Term.depthAll, ← markTerms, depthAll_markTerms_append]
  rfl

theorem ofSeq_spelledTerms (cs : List Char) : Term.ofSeq (spelledTerms cs) = .seq (spelledTerms cs) := by
  cases cs <;> rfl

variable {cs : List Char} (hcs : ∀ c ∈ cs, c ∉ special)
include hcs

theorem Term.read_spelled : Term.read ('^' :: (cs ++ ['$'])) = some (.seq (spelledTerms cs)) := by
  have hlen : ('^' :: (cs ++ ['$'])).length + 1 = cs.length + 2 + 1 := by simp
  have hstart :
      Reader.terms false (cs.length + 2 + 1) ⟨false, [], 0⟩ [] [] ('^' :: (cs ++ ['$'])) =
        Reader.terms false (cs.length + 2) ⟨false, [], 0⟩ [] [.anchor .lineStart] (cs ++ ['$']) := rfl
  have hend (done : List Term) :
      Reader.terms false 2 ⟨false, [], 0⟩ [] done ['$'] =
        some (Term.ofSeq (.anchor .lineEnd :: done).reverse, ⟨false, [], 0⟩, []) := rfl
  have hdone : (Term.anchor .lineEnd :: ((cs.map fun c => Term.mark ⟨c, false⟩).reverse ++
      [.anchor .lineStart])).reverse = spelledTerms cs := by
    simp [spelledTerms]
  rw [Term.read, hlen, hstart, terms_of_marks rfl [] _ hcs, hend, hdone, ofSeq_spelledTerms]
  simp [Term.depth, depthAll_spelledTerms, depthLimit]

omit hcs in
theorem simplifyAll_spelledTerms (ignoreCase : Bool) :
    Term.simplifyAll { ignoreCase } (spelledTerms cs) =
      some (.look .textStart :: (cs.map (Modes.charExpr { ignoreCase }) ++ [.look .textEnd]),
        { ignoreCase }) := by
  have hmarks := simplifyAll_markTerms_append cs
    (rfl : Term.simplifyAll { ignoreCase } [.anchor .lineEnd] = some ([.look .textEnd], { ignoreCase }))
  rw [markTerms] at hmarks
  simp [spelledTerms, Term.simplifyAll, Term.simplify, Modes.look, hmarks]

/-- A text of characters without a meaning of their own, tied to both ends, reads as these characters in
a row. -/
theorem Expr.read_spelled (ignoreCase : Bool) :
    Expr.read ('^' :: (cs ++ ['$'])) ignoreCase =
      some (.ofSeq (.look .textStart ::
        (cs.map (Modes.charExpr { ignoreCase }) ++ [.look .textEnd]))) := by
  simp [Expr.read, Term.read_spelled hcs, Term.simplify, simplifyAll_spelledTerms]

theorem Term.read_marks : Term.read cs = some (.ofSeq (markTerms cs)) := by
  have hend (done : List Term) : Reader.terms false 1 ⟨false, [], 0⟩ [] done [] =
      some (Term.ofSeq done.reverse, ⟨false, [], 0⟩, []) := rfl
  have hread : Reader.terms false (cs.length + 1) ⟨false, [], 0⟩ [] [] (cs ++ []) = _ :=
    terms_of_marks rfl [] [] hcs []
  rw [List.append_nil, List.append_nil, hend, List.reverse_reverse, ← markTerms] at hread
  have hdepth : (Term.ofSeq (markTerms cs)).depth ≤ depthLimit := by
    have hall := depthAll_markTerms_append cs []
    rw [List.append_nil] at hall
    rcases cs with _ | ⟨c, _ | ⟨d, cs⟩⟩
    · exact Nat.zero_le _
    · exact Nat.zero_le _
    · change Term.depthAll (markTerms (c :: d :: cs)) + 1 ≤ depthLimit
      rw [hall]
      decide
  rw [Term.read, hread]
  exact if_pos hdepth

/-- A text of characters without a meaning of their own reads as these characters in a row. -/
theorem Expr.read_marks (ignoreCase : Bool) :
    ∃ e, Expr.read cs ignoreCase = some e ∧ ∀ text places, (e.route text).follow places =
      (Expr.routeSeq text (cs.map (Modes.charExpr { ignoreCase }))).follow places := by
  have hall := simplifyAll_markTerms_append cs
    (rfl : Term.simplifyAll { ignoreCase } [] = some ([], { ignoreCase }))
  rw [List.append_nil, List.append_nil] at hall
  have hread : Expr.read cs ignoreCase =
      ((Term.ofSeq (markTerms cs)).simplify { ignoreCase }).map Prod.fst := by
    rw [Expr.read, Term.read_marks hcs, Option.bind_eq_bind, Option.bind_some]
    cases (Term.ofSeq (markTerms cs)).simplify { ignoreCase } <;> rfl
  -- A single term stands for itself, so only longer texts read as a sequence.
  rcases cs with _ | ⟨c, _ | ⟨d, cs⟩⟩
  · exact ⟨.empty, hread, fun _ _ => rfl⟩
  · exact ⟨Modes.charExpr { ignoreCase } c, hread, fun _ _ => rfl⟩
  · refine ⟨_, ?_, fun text places => follow_ofSeq text _ places⟩
    have hseq : Term.ofSeq (markTerms (c :: d :: cs)) = .seq (markTerms (c :: d :: cs)) := rfl
    rw [hread, hseq, Term.simplify, hall]
    rfl

end Source

end RegionNaming.Pattern
