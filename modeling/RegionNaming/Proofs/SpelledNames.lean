import RegionNaming.Proofs.ListItems
import RegionNaming.Proofs.LiteralPattern
import RegionNaming.Proofs.OptionVerdicts

/-! A name in the list of names and the pattern that spells it out, where letter case does not count.
Names are compared by upper case and patterns by case folding, so the two accept the same names exactly
if no letter of the name has a disputed capital. -/

namespace RegionNaming

open Options Unicode

/-- A token that stands for itself in a list and in a pattern: trimmed, not empty and without
delimiters and characters that mean something in a pattern. -/
structure Literal (token : String) : Prop where
  not_empty : token ≠ ""
  trimmed : Text.trim token = token
  not_delimiter : ∀ c ∈ token.toList, delimiter c = false
  not_special : ∀ c ∈ token.toList, c ∉ Pattern.special

structure ListsOnly (lookup : Lookup) (key other value : String) : Prop where
  ignoreCase : ((lookup caseSensitiveKey).bind flag?).getD false = false
  value_eq : lookup key = some value
  other_missing : supplied lookup other = false

def spelling (token : String) : String := "^" ++ token ++ "$"

theorem toList_spelling (token : String) :
    (spelling token).toList = '^' :: (token.toList ++ ['$']) := by
  simp [spelling]

namespace NamePattern

/-- A pattern that is taken looks for what its source reads as. -/
theorem read_of_compile {source : String} {caseSensitive : Bool} {p : NamePattern}
    (hp : (compile source caseSensitive).toOption = some p) :
    Pattern.Expr.read source.toList (!caseSensitive) = some p.expr := by
  rw [compile, compileWithin] at hp
  cases he : Pattern.Expr.read source.toList (!caseSensitive) with
  | none =>
    rw [he] at hp
    cases hp
  | some e =>
    rw [he] at hp
    dsimp only at hp
    split at hp
    case isTrue =>
      obtain rfl := Option.some.inj hp
      rfl
    case isFalse => cases hp

end NamePattern

theorem isBlank_spelling (token : String) : Text.isBlank (spelling token) = false := by
  rw [Text.isBlank, toList_spelling]
  rfl

namespace Literal

variable {token : String} (h : Literal token)
include h

theorem not_blank : Text.isBlank token = false := by
  rw [Bool.eq_false_iff, ne_eq, ← Text.trim_eq_empty_iff, h.trimmed]
  exact h.not_empty

theorem items_eq : items token = [token] :=
  items_eq_singleton h.not_empty h.trimmed h.not_delimiter

theorem items_spelling : items (spelling token) = [spelling token] := by
  have hchars := toList_spelling token
  apply items_eq_singleton
  · rw [Ne, ← String.toList_eq_nil_iff, hchars]
    exact List.cons_ne_nil _ _
  · apply String.toList_injective
    rw [Text.toList_trim, hchars, Text.trimChars_of_ends rfl rfl]
  · rw [hchars]
    intro c hc
    rcases List.mem_cons.1 hc with rfl | hc
    · rfl
    · rcases List.mem_append.1 hc with hc | hc
      · exact h.not_delimiter c hc
      · rw [List.mem_singleton.1 hc]
        rfl

/-- If the pattern is taken, it occurs in the names that have the same letters one by one. -/
theorem occursIn_spelling {caseSensitive : Bool} {p : NamePattern}
    (hp : (NamePattern.compile (spelling token) caseSensitive).toOption = some p) (name : String) :
    p.expr.occursIn name.toList = true ↔
      List.Forall₂ (fun c d => Pattern.Modes.same { ignoreCase := !caseSensitive } c d = true)
        token.toList name.toList := by
  have he := NamePattern.read_of_compile hp
  rw [toList_spelling, Pattern.Expr.read_spelled h.not_special] at he
  rw [← Option.some.inj he, Pattern.occursIn_spelled rfl]

end Literal

namespace ListsOnly

variable {lookup : Lookup} {key other value : String} (h : ListsOnly lookup key other value)
include h

theorem sensitive_eq : ((lookup caseSensitiveKey).bind flag? == some true) = false := by
  rw [← Policy.flag_false]
  exact h.ignoreCase

theorem listed_other : listed lookup other = [] := listed_of_not_supplied h.other_missing

theorem listed_eq (hb : Text.isBlank value = false) :
    supplied lookup key = true ∧ listed lookup key = items value :=
  listed_of_not_blank h.value_eq hb

end ListsOnly

section Token

variable {token name : String} {clock : Clock} {lookup : Lookup} (ht : Literal token)
  (hb : Text.isBlank name = false)
include ht hb

/-- A listed token lets the names pass that have its upper-case forms one by one. -/
theorem passes_listed_iff (h : ListsOnly lookup allowedNamesKey allowedPatternsKey token) :
    RuleChain.standard.failures clock (Policy.ofLookup lookup) name = [] ↔
      List.Forall₂ (fun c d => upper c = upper d) token.toList name.toList := by
  obtain ⟨hs, hl⟩ := h.listed_eq ht.not_blank
  have hc : (Policy.ofLookup lookup).custom = true := by rw [Policy.custom_ofLookup, hs, Bool.true_or]
  have hp : (Policy.ofLookup lookup).patterns = [] := by
    rw [Policy.patterns_ofLookup, h.listed_other]
    rfl
  have hkey : CaseMode.ignored.key token = CaseMode.ignored.key name ↔
      List.Forall₂ (fun c d => upper c = upper d) token.toList name.toList := by
    rw [CaseMode.key, CaseMode.key, String.ofList_inj, ← congrFun₂ List.forall₂_eq_eq_eq,
      List.forall₂_map_left_iff, List.forall₂_map_right_iff]
  rw [failures_eq_nil_iff hc hb, hl, ht.items_eq, hp, h.sensitive_eq, ← hkey]
  simp [CaseMode.ofSensitive]

/-- The pattern that spells a token out lets the names pass that fold to the same letters one by one, if
looking for it does not last too long. -/
theorem passes_spelling_iff (h : ListsOnly lookup allowedPatternsKey allowedNamesKey (spelling token))
    (hfits : (NamePattern.compile (spelling token) false).toOption.isSome = true)
    (htime : (Policy.ofLookup lookup).InTime clock name) :
    RuleChain.standard.failures clock (Policy.ofLookup lookup) name = [] ↔
      List.Forall₂ (fun c d => leastVariant c.toNat = leastVariant d.toNat)
        token.toList name.toList := by
  obtain ⟨hs, hl⟩ := h.listed_eq (isBlank_spelling token)
  have hc : (Policy.ofLookup lookup).custom = true := by rw [Policy.custom_ofLookup, hs, Bool.or_true]
  obtain ⟨p, hp⟩ := Option.isSome_iff_exists.1 hfits
  have hpatterns : (Policy.ofLookup lookup).patterns = [p] := by
    rw [Policy.patterns_ofLookup, hl, ht.items_spelling, h.sensitive_eq]
    simp [hp]
  have hin : clock p name ≤ p.budget := htime p (hpatterns ▸ List.mem_singleton_self p)
  have hmatch := (Clock.attempt_eq_matched_iff hin).trans (ht.occursIn_spelling hp name)
  simp only [Pattern.Modes.same, Bool.not_false, if_true, beq_iff_eq] at hmatch
  rw [failures_eq_nil_iff hc hb, h.listed_other, hpatterns, ← hmatch]
  simp

end Token

section Letters

variable {R S : Char → Char → Prop}

theorem forall₂_iff_of_mem {cs : List Char} (h : ∀ c ∈ cs, ∀ d, R c d ↔ S c d) (ds : List Char) :
    List.Forall₂ R cs ds ↔ List.Forall₂ S cs ds := by
  induction cs generalizing ds with
  | nil => simp
  | cons c cs ih =>
    obtain ⟨hc, hcs⟩ := List.forall_mem_cons.1 h
    cases ds with
    | nil => simp
    | cons d ds => rw [List.forall₂_cons, List.forall₂_cons, hc, ih hcs]

/-- Two texts that differ in one letter are related as these letters are. -/
theorem forall₂_replace_iff (hr : ∀ c, R c c) (as bs : List Char) (c d : Char) :
    List.Forall₂ R (as ++ c :: bs) (as ++ d :: bs) ↔ R c d := by
  induction as with
  | nil =>
    rw [List.nil_append, List.nil_append, List.forall₂_cons]
    exact and_iff_left (List.forall₂_same.2 fun b _ => hr b)
  | cons a as ih =>
    rw [List.cons_append, List.cons_append, List.forall₂_cons, ih]
    exact and_iff_right (hr a)

end Letters

/-- A listed token and the pattern that spells it out let the same names pass exactly if no letter of
the token has a disputed capital. Looking for the pattern may not last too long. -/
theorem passes_alike_iff {clock : Clock} {token : String} (ht : Literal token) {names patterns : Lookup}
    (hnames : ListsOnly names allowedNamesKey allowedPatternsKey token)
    (hpatterns : ListsOnly patterns allowedPatternsKey allowedNamesKey (spelling token))
    (hfits : (NamePattern.compile (spelling token) false).toOption.isSome = true)
    (htime : ∀ name, (Policy.ofLookup patterns).InTime clock name) :
    (∀ name, Text.isBlank name = false →
      (RuleChain.standard.failures clock (Policy.ofLookup names) name = [] ↔
        RuleChain.standard.failures clock (Policy.ofLookup patterns) name = [])) ↔
      ∀ c ∈ token.toList, disputed (upper c).toNat = false := by
  constructor
  · intro h c hc
    rw [Bool.eq_false_iff]
    intro hd
    obtain ⟨d, hblank, hdiff⟩ := exists_rival hd
    obtain ⟨as, bs, hsplit⟩ := List.append_of_mem hc
    have hb : Text.isBlank (String.ofList (as ++ d :: bs)) = false := by simp [Text.isBlank, hblank]
    have hupper := forall₂_replace_iff (R := fun c d => upper c = upper d) (fun _ => rfl) as bs c d
    have hfold := forall₂_replace_iff (R := fun c d => leastVariant c.toNat = leastVariant d.toNat)
      (fun _ => rfl) as bs c d
    have hiff := h _ hb
    rw [passes_listed_iff ht hb hnames, passes_spelling_iff ht hb hpatterns hfits (htime _),
      String.toList_ofList, hsplit, hupper, hfold] at hiff
    exact hdiff hiff
  · intro h name hb
    rw [passes_listed_iff ht hb hnames, passes_spelling_iff ht hb hpatterns hfits (htime _)]
    exact forall₂_iff_of_mem (fun c hc d => upper_eq_iff_of_not_disputed (h c hc) d) name.toList

def single (key value : String) : Lookup := fun k => if k = key then some value else none

theorem passes_alike_iff_door :
    Literal "Tür_Öffner 2" ∧ (∀ c ∈ "Tür_Öffner 2".toList, disputed (upper c).toNat = false) ∧
      ∀ name, Text.isBlank name = false →
        (RuleChain.standard.failures .still
            (Policy.ofLookup (single allowedNamesKey "Tür_Öffner 2")) name = [] ↔
          RuleChain.standard.failures .still
            (Policy.ofLookup (single allowedPatternsKey (spelling "Tür_Öffner 2"))) name = []) := by
  have hplain : ("Tür_Öffner 2".toList.all fun c => !delimiter c && c ∉ Pattern.special) = true := by
    decide
  have hcapital : ("Tür_Öffner 2".toList.all fun c => !disputed (upper c).toNat) = true := by
    decide +kernel
  simp only [List.all_eq_true, Bool.and_eq_true, Bool.not_eq_true', decide_eq_true_eq] at hplain hcapital
  have ht : Literal "Tür_Öffner 2" :=
    ⟨by decide, by decide, fun c hc => (hplain c hc).1, fun c hc => (hplain c hc).2⟩
  refine ⟨ht, hcapital, (passes_alike_iff ht ?_ ?_ ?_ fun _ _ _ => Nat.zero_le _).2 hcapital⟩
  · exact ⟨by decide, by decide, by decide⟩
  · exact ⟨by decide, by decide, by decide⟩
  · decide +kernel

/-- The dotless i has the upper-case form of `I` and folds to itself. -/
theorem passes_unlike_dotless_i :
    RuleChain.standard.failures .still (Policy.ofLookup (single allowedNamesKey "MAIN")) "maın" = [] ∧
      RuleChain.standard.failures .still (Policy.ofLookup (single allowedPatternsKey "^MAIN$")) "maın" =
        [.fail .invalidPattern "maın"] := by
  decide +kernel

end RegionNaming
