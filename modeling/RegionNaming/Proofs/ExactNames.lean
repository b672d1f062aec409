import Mathlib.Data.List.Infix
import RegionNaming.Proofs.SpelledNames

/-! A literal token where letter case counts. As a pattern it is searched for in the name; spelled out from
end to end it asks for the name itself, as it does in the list of names. -/

namespace RegionNaming

open Options

structure ExactOnly (lookup : Lookup) (key other value : String) : Prop where
  caseCounts : (lookup caseSensitiveKey).bind flag? = some true
  value_eq : lookup key = some value
  other_missing : supplied lookup other = false

namespace Pattern

theorem forall₂_same_iff (cs ds : List Char) :
    List.Forall₂ (fun c d => Modes.same { ignoreCase := false } c d = true) cs ds ↔ cs = ds := by
  have hsame : (fun c d => Modes.same { ignoreCase := false } c d = true) = fun c d => c = d := by
    funext c d
    rw [Modes.same, if_neg Bool.false_ne_true, beq_iff_eq]
    exact propext eq_comm
  rw [hsame, List.forall₂_eq_eq_eq]

/-- Where letter case counts, a literal pattern occurs in the texts that it is a part of. -/
theorem occursIn_literal {cs : List Char} (hcs : ∀ c ∈ cs, c ∉ special) {e : Expr}
    (he : Expr.read cs false = some e) (text : List Char) :
    e.occursIn text = true ↔ cs <:+: text := by
  obtain ⟨e', he', hroute⟩ := Expr.read_marks hcs false
  obtain rfl : e' = e := Option.some.inj (he'.symm.trans he)
  rw [occursIn_chars rfl text (hroute text)]
  constructor
  · rintro ⟨word, hword, hsame⟩
    rwa [(forall₂_same_iff cs word).1 hsame]
  · intro h
    exact ⟨cs, h, (forall₂_same_iff cs cs).2 rfl⟩

end Pattern

namespace Literal

variable {token : String} (h : Literal token) {p : NamePattern} (name : String)
include h

theorem occursIn_token (hp : (NamePattern.compile token true).toOption = some p) :
    p.expr.occursIn name.toList = true ↔ token.toList <:+: name.toList :=
  Pattern.occursIn_literal h.not_special (NamePattern.read_of_compile hp) _

theorem occursIn_spelling_exact (hp : (NamePattern.compile (spelling token) true).toOption = some p) :
    p.expr.occursIn name.toList = true ↔ name = token := by
  rw [h.occursIn_spelling hp, Bool.not_true, Pattern.forall₂_same_iff, String.toList_inj, eq_comm]

end Literal

namespace ExactOnly

variable {clock : Clock} {lookup : Lookup} {value name : String} (hb : Text.isBlank name = false)
include hb

/-- Under a single pattern a name passes if the pattern occurs in it, and is reported otherwise. -/
theorem failures_of_pattern (h : ExactOnly lookup allowedPatternsKey allowedNamesKey value)
    (hv : Text.isBlank value = false) (hi : items value = [value]) {p : NamePattern}
    (hp : (NamePattern.compile value true).toOption = some p)
    (htime : (Policy.ofLookup lookup).InTime clock name) :
    RuleChain.standard.failures clock (Policy.ofLookup lookup) name =
      if p.expr.occursIn name.toList then [] else failsAs "RR2002" name := by
  obtain ⟨hs, hl⟩ := listed_of_not_blank h.value_eq hv
  have hnames := listed_of_not_supplied h.other_missing
  have hpatterns : (Policy.ofLookup lookup).patterns = [p] := by
    rw [Policy.patterns_ofLookup, hl, hi, h.caseCounts]
    simp [hp]
  have hin : clock p name ≤ p.budget := htime p (hpatterns ▸ List.mem_singleton_self p)
  have hc : (Policy.ofLookup lookup).custom = true := by rw [Policy.custom_ofLookup, hs, Bool.or_true]
  have hfails : failsAs "RR2002" name = _ := failsAs_id .invalidPattern name
  rw [RuleChain.failures_standard_of_custom _ _ hb hc, Policy.names_left, Policy.patterns_left, hnames,
    hpatterns, hfails]
  simp [Rule.passes, hpatterns, Clock.attempt_eq_matched_iff hin]

/-- Under a single listed name a name passes if it is that one, and is reported otherwise. -/
theorem failures_of_name (h : ExactOnly lookup allowedNamesKey allowedPatternsKey value)
    (hv : Text.isBlank value = false) (hi : items value = [value]) :
    RuleChain.standard.failures clock (Policy.ofLookup lookup) name =
      if name = value then [] else failsAs "RR2001" name := by
  obtain ⟨hs, hl⟩ := listed_of_not_blank h.value_eq hv
  have hpatterns : (Policy.ofLookup lookup).patterns = [] := by
    rw [Policy.patterns_ofLookup, listed_of_not_supplied h.other_missing, List.filterMap_nil]
  have hc : (Policy.ofLookup lookup).custom = true := by rw [Policy.custom_ofLookup, hs, Bool.true_or]
  have hfails : failsAs "RR2001" name = _ := failsAs_id .invalidName name
  have hpass : Rule.allowedNames.passes clock (Policy.ofLookup lookup) name = true ↔ name = value := by
    rw [Rule.passes, Policy.names_ofLookup, if_pos hs, hl, hi, NameSet.contains_ofList, h.caseCounts]
    simp [CaseMode.ofSensitive, CaseMode.key, eq_comm]
  rw [RuleChain.failures_standard_of_custom _ _ hb hc, Policy.names_left, Policy.patterns_left, hl, hi,
    hpatterns, hfails]
  simp [hpass]

end ExactOnly

/-- A literal token where letter case counts, and any name that is not blank. As a pattern the token lets
the name pass exactly if it is a part of it; spelled out from end to end, exactly if it is the name, which
is also when the token lets it pass as a listed name. Otherwise that one list is reported. Looking for the
patterns may not last too long. -/
theorem failures_of_literal {clock : Clock} {token name : String} (ht : Literal token)
    (hb : Text.isBlank name = false)
    {searched spelled named : Lookup}
    (hsearched : ExactOnly searched allowedPatternsKey allowedNamesKey token)
    (hspelled : ExactOnly spelled allowedPatternsKey allowedNamesKey (spelling token))
    (hnamed : ExactOnly named allowedNamesKey allowedPatternsKey token) :
    ((NamePattern.compile token true).toOption.isSome = true →
      (Policy.ofLookup searched).InTime clock name →
      RuleChain.standard.failures clock (Policy.ofLookup searched) name =
        if token.toList <:+: name.toList then [] else failsAs "RR2002" name) ∧
    ((NamePattern.compile (spelling token) true).toOption.isSome = true →
      (Policy.ofLookup spelled).InTime clock name →
      RuleChain.standard.failures clock (Policy.ofLookup spelled) name =
        if name = token then [] else failsAs "RR2002" name) ∧
    RuleChain.standard.failures clock (Policy.ofLookup named) name =
      if name = token then [] else failsAs "RR2001" name := by
  refine ⟨fun hfits htime => ?_, fun hfits htime => ?_, hnamed.failures_of_name hb ht.not_blank ht.items_eq⟩
  · obtain ⟨p, hp⟩ := Option.isSome_iff_exists.1 hfits
    rw [hsearched.failures_of_pattern hb ht.not_blank ht.items_eq hp htime]
    simp only [ht.occursIn_token name hp]
  · obtain ⟨p, hp⟩ := Option.isSome_iff_exists.1 hfits
    rw [hspelled.failures_of_pattern hb (isBlank_spelling token) ht.items_spelling hp htime]
    simp only [ht.occursIn_spelling_exact name hp]

/-- A name of two lines that only ends with the token. -/
theorem failures_of_literal_second_line :
    let options (key value : String) : Lookup :=
      fun k => if k = caseSensitiveKey then some " TRUE" else single key value k
    Literal "Größe_2 x" ∧ Text.isBlank "alt\nGröße_2 x" = false ∧
      RuleChain.standard.failures .still (Policy.ofLookup (options allowedPatternsKey "Größe_2 x"))
        "alt\nGröße_2 x" = [] ∧
      RuleChain.standard.failures .still
        (Policy.ofLookup (options allowedPatternsKey (spelling "Größe_2 x"))) "alt\nGröße_2 x" = failsAs "RR2002" "alt\nGröße_2 x" ∧
      RuleChain.standard.failures .still (Policy.ofLookup (options allowedNamesKey "Größe_2 x"))
        "alt\nGröße_2 x" = failsAs "RR2001" "alt\nGröße_2 x" := by
  intro options
  have hplain : ("Größe_2 x".toList.all fun c => !delimiter c && c ∉ Pattern.special) = true := by
    decide
  simp only [List.all_eq_true, Bool.and_eq_true, Bool.not_eq_true', decide_eq_true_eq] at hplain
  have ht : Literal "Größe_2 x" :=
    ⟨by decide, by decide, fun c hc => (hplain c hc).1, fun c hc => (hplain c hc).2⟩
  have hb : Text.isBlank "alt\nGröße_2 x" = false := by decide
  have hsearched : ExactOnly (options allowedPatternsKey "Größe_2 x") allowedPatternsKey allowedNamesKey
      "Größe_2 x" := ⟨by decide, by decide, by decide⟩
  have hspelled : ExactOnly (options allowedPatternsKey (spelling "Größe_2 x")) allowedPatternsKey
      allowedNamesKey (spelling "Größe_2 x") := ⟨by decide, by decide, by decide⟩
  have hnamed : ExactOnly (options allowedNamesKey "Größe_2 x") allowedNamesKey allowedPatternsKey
      "Größe_2 x" := ⟨by decide, by decide, by decide⟩
  have hpart : "Größe_2 x".toList <:+: "alt\nGröße_2 x".toList := ⟨"alt\n".toList, [], by decide⟩
  have hother : "alt\nGröße_2 x" ≠ "Größe_2 x" := by decide
  obtain ⟨hpass, hfail, hfail'⟩ :=
    @failures_of_literal .still _ _ ht hb _ _ _ hsearched hspelled hnamed
  rw [if_pos hpart] at hpass
  rw [if_neg hother] at hfail hfail'
  exact ⟨ht, hb, hpass (by decide +kernel) (fun _ _ => Nat.zero_le _),
    hfail (by decide +kernel) (fun _ _ => Nat.zero_le _), hfail'⟩

end RegionNaming
