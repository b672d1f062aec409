import Mathlib.Data.List.DropRight
import Mathlib.Data.List.TakeWhile

/-! Reading JSON texts: blanks between tokens, strings with all their escapes, numbers with point and
exponent, arrays and objects. The reader knows nothing of how reports are laid out. -/

namespace RegionNaming.Json

/-- A JSON value. A number is its digits and the power of ten that they are taken with; the fields of an
object keep their order. -/
inductive Value where
  | null
  | bool (b : Bool)
  | number (digits exponent : Int)
  | string (s : String)
  | array (items : List Value)
  | object (fields : List (String × Value))

def blank (c : Char) : Bool := c = ' ' || c = '\t' || c = '\n' || c = '\r'

def skip (cs : List Char) : List Char := cs.dropWhile blank

def hexValue? (c : Char) : Option Nat :=
  if c.isDigit then some (c.toNat - 48)
  else if 'a' ≤ c && c ≤ 'f' then some (c.toNat - 87)
  else if 'A' ≤ c && c ≤ 'F' then some (c.toNat - 55)
  else none

def codeUnit? : List Char → Option (Nat × List Char)
  | a :: b :: c :: d :: rest => do
    let a ← hexValue? a
    let b ← hexValue? b
    let c ← hexValue? c
    let d ← hexValue? d
    some (((a * 16 + b) * 16 + c) * 16 + d, rest)
  | _ => none

/-- The character of a code unit. The first half of a surrogate pair needs an escape of the second half
right behind it; a second half does not stand alone. -/
def unitChar? (u : Nat) (rest : List Char) : Option (Char × List Char) :=
  if u < 0xD800 || 0xDFFF < u then some (Char.ofNat u, rest)
  else if 0xDC00 ≤ u then none
  else
    match rest with
    | '\\' :: 'u' :: rest => do
      let (v, rest) ← codeUnit? rest
      if 0xDC00 ≤ v && v ≤ 0xDFFF then
        some (Char.ofNat (0x10000 + (u - 0xD800) * 0x400 + (v - 0xDC00)), rest)
      else none
    | _ => none

def letterEscape? : Char → Option Char
  | '"' => some '"'
  | '\\' => some '\\'
  | '/' => some '/'
  | 'b' => some '\x08'
  | 'f' => some '\x0c'
  | 'n' => some '\n'
  | 'r' => some '\r'
  | 't' => some '\t'
  | _ => none

/-- One character of a string, as it is or escaped, and the text after it. Control characters have to
be escaped. -/
def char? : List Char → Option (Char × List Char)
  | [] => none
  | c :: rest =>
    if c = '\\' then
      match rest with
      | [] => none
      | e :: rest =>
        if e = 'u' then (codeUnit? rest).bind fun (u, rest) => unitChar? u rest
        else (letterEscape? e).map fun c => (c, rest)
    else if c = '"' || c.toNat < 0x20 then none
    else some (c, rest)

def chars? : Nat → List Char → Option (List Char × List Char)
  | 0, _ => none
  | _ + 1, '"' :: rest => some ([], rest)
  | fuel + 1, cs => do
    let (c, rest) ← char? cs
    let (s, rest) ← chars? fuel rest
    some (c :: s, rest)

def string? (cs : List Char) : Option (String × List Char) :=
  (chars? cs.length cs).map fun (s, rest) => (String.ofList s, rest)

def fraction? : List Char → Option (List Char × List Char)
  | '.' :: rest =>
    let ds := rest.takeWhile Char.isDigit
    if ds = [] then none else some (ds, rest.dropWhile Char.isDigit)
  | cs => some ([], cs)

def minus : List Char → Bool × List Char
  | '-' :: rest => (true, rest)
  | cs => (false, cs)

def signed (negative : Bool) (ds : List Char) : Int :=
  if negative then -Nat.ofDigitChars 10 ds 0 else Nat.ofDigitChars 10 ds 0

def exponent? : List Char → Option (Int × List Char)
  | [] => some (0, [])
  | c :: rest =>
    if c = 'e' || c = 'E' then
      let (negative, rest) :=
        match rest with
        | '+' :: rest => (false, rest)
        | rest => minus rest
      let ds := rest.takeWhile Char.isDigit
      if ds = [] then none else some (signed negative ds, rest.dropWhile Char.isDigit)
    else some (0, c :: rest)

def number? (cs : List Char) : Option (Value × List Char) := do
  let (negative, cs) := minus cs
  let whole := cs.takeWhile Char.isDigit
  if whole = [] || (whole.head? = some '0' && whole ≠ ['0']) then none
  else
    let (fraction, rest) ← fraction? (cs.dropWhile Char.isDigit)
    let (exponent, rest) ← exponent? rest
    some (.number (signed negative (whole ++ fraction)) (exponent - fraction.length), rest)

def word? : List Char → Option (Value × List Char)
  | 'n' :: 'u' :: 'l' :: 'l' :: rest => some (.null, rest)
  | 't' :: 'r' :: 'u' :: 'e' :: rest => some (.bool true, rest)
  | 'f' :: 'a' :: 'l' :: 's' :: 'e' :: rest => some (.bool false, rest)
  | _ => none

mutual

/-- A value with blanks before it, and the text after it. `fuel` has to exceed the number of values and
fields that are read one inside or behind another. -/
def value? : Nat → List Char → Option (Value × List Char)
  | 0, _ => none
  | fuel + 1, cs =>
    match skip cs with
    | '"' :: rest => (string? rest).map fun (s, rest) => (.string s, rest)
    | '[' :: rest =>
      match skip rest with
      | ']' :: rest => some (.array [], rest)
      | rest => (items? fuel rest).map fun (vs, rest) => (.array vs, rest)
    | '\x7b' :: rest =>
      match skip rest with
      | '\x7d' :: rest => some (.object [], rest)
      | rest => (fields? fuel rest).map fun (fs, rest) => (.object fs, rest)
    | cs => (word? cs).orElse fun _ => number? cs

def items? : Nat → List Char → Option (List Value × List Char)
  | 0, _ => none
  | fuel + 1, cs => do
    let (v, rest) ← value? fuel cs
    match skip rest with
    | ',' :: rest => (items? fuel rest).map fun (vs, rest) => (v :: vs, rest)
    | ']' :: rest => some ([v], rest)
    | _ => none

def fields? : Nat → List Char → Option (List (String × Value) × List Char)
  | 0, _ => none
  | fuel + 1, cs =>
    match skip cs with
    | '"' :: rest => do
      let (key, rest) ← string? rest
      match skip rest with
      | ':' :: rest => do
        let (v, rest) ← value? fuel rest
        match skip rest with
        | ',' :: rest => (fields? fuel rest).map fun (fs, rest) => ((key, v) :: fs, rest)
        | '\x7d' :: rest => some ([(key, v)], rest)
        | _ => none
      | _ => none
    | _ => none

end

def read? (text : String) : Option Value := do
  let (v, rest) ← value? (text.toList.length + 1) text.toList
  if skip rest = [] then some v else none

section Numbers

/-- No number but zero is written with a zero in front. -/
theorem eq_zero_of_head?_toDigits {n : Nat} (h : (Nat.toDigits 10 n).head? = some '0') : n = 0 := by
  induction n using Nat.strong_induction_on with
  | _ n ih =>
    rcases Nat.lt_or_ge n 10 with hn | hn
    · rw [Nat.toDigits_of_lt_base hn] at h
      exact Nat.digitChar_eq_zero.1 (Option.some.inj h)
    · have hne : Nat.toDigits 10 (n / 10) ≠ [] := Nat.toDigits_ne_nil
      rw [Nat.toDigits_of_base_le (by decide) hn, List.head?_append, List.head?_eq_some_head hne] at h
      have hq : n / 10 = 0 := ih (n / 10) (by omega) (by rw [List.head?_eq_some_head hne]; exact h)
      omega

def NumberEnd (rest : List Char) : Prop :=
  ∀ c ∈ rest.head?, c.isDigit = false ∧ c ≠ '.' ∧ c ≠ 'e' ∧ c ≠ 'E'

theorem fraction?_of_numberEnd {rest : List Char} (h : NumberEnd rest) :
    fraction? rest = some ([], rest) := by
  rw [fraction?]
  rintro tail rfl
  exact (h '.' rfl).2.1 rfl

theorem exponent?_of_numberEnd {rest : List Char} (h : NumberEnd rest) :
    exponent? rest = some (0, rest) := by
  cases rest with
  | nil => rfl
  | cons c tail =>
    obtain ⟨_, _, he, hE⟩ := h c rfl
    simp [exponent?, he, hE]

theorem span_digits_append {ds rest : List Char} (hd : ∀ c ∈ ds, c.isDigit = true) (h : NumberEnd rest) :
    (ds ++ rest).takeWhile Char.isDigit = ds ∧ (ds ++ rest).dropWhile Char.isDigit = rest := by
  rw [List.takeWhile_append_of_pos hd, List.dropWhile_append_of_pos hd]
  cases rest with
  | nil => simp
  | cons c tail => simp [(h c rfl).1]

theorem number?_toDigits (n : Nat) {rest : List Char} (h : NumberEnd rest) :
    number? (Nat.toDigits 10 n ++ rest) = some (.number n 0, rest) := by
  have hd : ∀ c ∈ Nat.toDigits 10 n, c.isDigit = true := fun c hc =>
    Nat.isDigit_of_mem_toDigits (by decide) (by decide) hc
  have hne : Nat.toDigits 10 n ≠ [] := Nat.toDigits_ne_nil
  have hm : minus (Nat.toDigits 10 n ++ rest) = (false, Nat.toDigits 10 n ++ rest) := by
    obtain ⟨d, ds, hds⟩ := List.exists_cons_of_ne_nil hne
    rw [minus]
    rintro tail heq
    rw [hds, List.cons_append] at heq
    obtain rfl : d = '-' := (List.cons.inj heq).1
    exact absurd (hd '-' (by simp [hds])) (by decide)
  have hz : ¬ ((Nat.toDigits 10 n).head? = some '0' ∧ Nat.toDigits 10 n ≠ ['0']) := by
    rintro ⟨hz, hz'⟩
    exact hz' (by rw [eq_zero_of_head?_toDigits hz, Nat.toDigits_zero])
  obtain ⟨htake, hdrop⟩ := span_digits_append hd h
  simp only [number?, hm, htake, hdrop]
  rw [if_neg (by simpa [hne] using hz), fraction?_of_numberEnd h]
  simp [exponent?_of_numberEnd h, signed, Nat.ofDigitChars_ten_toDigits]

end Numbers

theorem skip_of_blank {c : Char} (h : blank c = true) (cs : List Char) : skip (c :: cs) = skip cs :=
  List.dropWhile_cons_of_pos h

theorem skip_of_not_blank {c : Char} (h : blank c = false) (cs : List Char) :
    skip (c :: cs) = c :: cs :=
  List.dropWhile_cons_of_neg (Bool.eq_false_iff.1 h)

@[simp] theorem skip_skip (cs : List Char) : skip (skip cs) = skip cs :=
  List.dropWhile_idempotent blank cs

theorem value?_skip (fuel : Nat) (cs : List Char) : value? fuel (skip cs) = value? fuel cs := by
  cases fuel with
  | zero => rfl
  | succ fuel => rw [value?, skip_skip, value?]

theorem items?_skip (fuel : Nat) (cs : List Char) : items? fuel (skip cs) = items? fuel cs := by
  cases fuel with
  | zero => rfl
  | succ fuel => rw [items?, value?_skip, items?]

theorem fields?_skip (fuel : Nat) (cs : List Char) : fields? fuel (skip cs) = fields? fuel cs := by
  cases fuel with
  | zero => rfl
  | succ fuel => rw [fields?, skip_skip, fields?]

/-- A text that is read as a value wherever a comma or a line feed follows it, with any fuel from `n`
on. -/
def ReadAs (n : Nat) (text : List Char) (v : Value) : Prop :=
  ∀ fuel c rest, n ≤ fuel → c = ',' ∨ c = '\n' →
    value? fuel (text ++ c :: rest) = some (v, c :: rest)

/-- A text that starts with a digit is read as a number. -/
theorem value?_of_isDigit {d : Char} (h : d.isDigit = true) (fuel : Nat) (cs : List Char) :
    value? (fuel + 1) (d :: cs) = number? (d :: cs) := by
  have hne (c : Char) (hc : c.isDigit = false) : d ≠ c := by
    rintro rfl
    rw [hc] at h
    cases h
  have hb : blank d = false := by
    simp [blank, hne ' ' rfl, hne '\t' rfl, hne '\n' rfl, hne '\r' rfl]
  have hw : word? (d :: cs) = none := by
    rw [word?]
    · exact fun _ heq => hne 'n' rfl (List.cons.inj heq).1
    · exact fun _ heq => hne 't' rfl (List.cons.inj heq).1
    · exact fun _ heq => hne 'f' rfl (List.cons.inj heq).1
  rw [value?, skip_of_not_blank hb]
  split
  case h_1 _ heq => exact absurd (List.cons.inj heq).1 (hne '"' rfl)
  case h_2 _ heq => exact absurd (List.cons.inj heq).1 (hne '[' rfl)
  case h_3 _ heq => exact absurd (List.cons.inj heq).1 (hne '\x7b' rfl)
  case h_4 =>
    rw [hw]
    rfl

theorem readAs_toString (n : Nat) : ReadAs 1 (toString n).toList (.number n 0) := by
  intro fuel c rest hf hc
  obtain ⟨fuel, rfl⟩ := Nat.exists_eq_add_of_le' hf
  have he : NumberEnd (c :: rest) := by
    intro d hd
    obtain rfl : c = d := Option.some.inj hd
    rcases hc with rfl | rfl <;> decide
  obtain ⟨d, ds, hds⟩ := List.exists_cons_of_ne_nil (Nat.toDigits_ne_nil (n := n) (b := 10))
  have hd : d.isDigit = true :=
    Nat.isDigit_of_mem_toDigits (by decide) (by decide) (hds ▸ List.mem_cons_self)
  rw [Nat.toString_eq_repr, Nat.toList_repr, ← number?_toDigits n he, hds, List.cons_append,
    value?_of_isDigit hd]

section Steps

variable {fuel : Nat} {cs rest tail : List Char} {v : Value}

theorem items?_more (h : value? fuel cs = some (v, ',' :: rest)) :
    items? (fuel + 1) cs = (items? fuel rest).map fun (vs, rest) => (v :: vs, rest) := by
  rw [items?, h]
  rfl

theorem items?_last (h : value? fuel cs = some (v, tail)) (ht : skip tail = ']' :: rest) :
    items? (fuel + 1) cs = some ([v], rest) := by
  simp [items?, h, ht]

theorem value?_string {s : String} (h : string? cs = some (s, rest)) :
    value? (fuel + 1) ('"' :: cs) = some (.string s, rest) := by
  have hs : skip ('"' :: cs) = '"' :: cs := rfl
  simp only [value?, hs, h, Option.map_some]

/-- What follows the opening bracket of an array with items does not start with the closing one. -/
theorem value?_array {vs : List Value} (h : items? fuel cs = some (vs, rest)) :
    value? (fuel + 1) ('[' :: cs) = some (.array vs, rest) := by
  have hs : skip ('[' :: cs) = '[' :: cs := rfl
  simp only [value?, hs]
  split
  case h_1 heq =>
    rw [← items?_skip, heq] at h
    match fuel with
    | 0 => cases h
    | 1 => cases h
    | fuel + 2 => cases h
  case h_2 => rw [items?_skip, h]; rfl

theorem value?_object {fs : List (String × Value)} (h : fields? fuel cs = some (fs, rest)) :
    value? (fuel + 1) ('\x7b' :: cs) = some (.object fs, rest) := by
  have hs : skip ('\x7b' :: cs) = '\x7b' :: cs := rfl
  simp only [value?, hs]
  split
  case h_1 heq =>
    rw [← fields?_skip, heq] at h
    cases fuel <;> cases h
  case h_2 => rw [fields?_skip, h]; rfl

variable {key : String} {after : List Char}

theorem fields?_more (hk : string? cs = some (key, ':' :: after))
    (h : value? fuel after = some (v, ',' :: rest)) :
    fields? (fuel + 1) ('"' :: cs) =
      (fields? fuel rest).map fun (fs, rest) => ((key, v) :: fs, rest) := by
  have hq : skip ('"' :: cs) = '"' :: cs := rfl
  have hc : skip (':' :: after) = ':' :: after := rfl
  have hm : skip (',' :: rest) = ',' :: rest := rfl
  simp [fields?, hq, hk, hc, h, hm]

theorem fields?_last (hk : string? cs = some (key, ':' :: after))
    (h : value? fuel after = some (v, tail)) (ht : skip tail = '\x7d' :: rest) :
    fields? (fuel + 1) ('"' :: cs) = some ([(key, v)], rest) := by
  have hq : skip ('"' :: cs) = '"' :: cs := rfl
  have hc : skip (':' :: after) = ':' :: after := rfl
  simp [fields?, hq, hk, hc, h, ht]

end Steps

/-- Items on lines of their own, with a comma after each but the last. -/
theorem items?_intercalate {α : Type} {text : α → String} {v : α → Value} {n : Nat}
    (h : ∀ a, ReadAs n (text a).toList (v a)) {as : List α} (hne : as ≠ []) {fuel : Nat}
    (hf : n + as.length ≤ fuel) (rest : List Char) :
    items? fuel ((String.intercalate ",\n" (as.map text)).toList ++ '\n' :: ']' :: rest) =
      some (as.map v, rest) := by
  induction as generalizing fuel with
  | nil => exact absurd rfl hne
  | cons a as ih =>
    rw [List.length_cons] at hf
    obtain ⟨fuel, rfl⟩ : ∃ k, fuel = k + 1 := ⟨fuel - 1, by omega⟩
    cases as with
    | nil =>
      rw [List.map_singleton, String.intercalate_singleton]
      exact items?_last (h a fuel '\n' _ (by omega) (.inr rfl)) rfl
    | cons b as =>
      have hl : n + (b :: as).length ≤ fuel := by omega
      have hsep : ",\n".toList = [',', '\n'] := rfl
      rw [List.map_cons, List.map_cons, String.intercalate_cons_cons, ← List.map_cons]
      simp only [String.toList_append, hsep, List.append_assoc, List.cons_append, List.nil_append]
      rw [items?_more (h a fuel ',' _ (by omega) (.inl rfl)), ← items?_skip, skip_of_blank rfl,
        items?_skip, ih (List.cons_ne_nil b as) hl]
      rfl

end RegionNaming.Json
