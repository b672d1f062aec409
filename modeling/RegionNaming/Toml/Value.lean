import RegionNaming.Number.Duration
import RegionNaming.Number.Shortest
import RegionNaming.Options.Store

/-! Values of TOML documents and their texts. -/

namespace RegionNaming.Toml

open Number (padded fraction)

structure Date where
  year : Nat
  month : Nat
  day : Nat
deriving DecidableEq, Repr

structure Time where
  hour : Nat
  minute : Nat
  second : Option Nat
  nanosecond : Nat
deriving DecidableEq, Repr

inductive Offset where
  | utc
  | minutes (m : Int)
deriving DecidableEq, Repr

inductive DateTime where
  | date (d : Date)
  | time (t : Time)
  | both (d : Date) (t : Time) (offset : Option Offset)
deriving DecidableEq, Repr

inductive Value where
  | string (s : String)
  | boolean (b : Bool)
  | integer (n : Int)
  | float (x : Number.Binary64)
  | dateTime (d : DateTime)
  | array (items : List Value)
  | table (entries : List (String × Value))
deriving Repr

mutual

def Value.same : Value → Value → Bool
  | .string s, .string t => s = t
  | .boolean a, .boolean b => a = b
  | .integer m, .integer n => m = n
  | .float x, .float y => x = y
  | .dateTime d, .dateTime e => d = e
  | .array vs, .array ws => sameItems vs ws
  | .table vs, .table ws => sameEntries vs ws
  | _, _ => false

def sameItems : List Value → List Value → Bool
  | [], [] => true
  | v :: vs, w :: ws => v.same w && sameItems vs ws
  | _, _ => false

def sameEntries : List (String × Value) → List (String × Value) → Bool
  | [], [] => true
  | (k, v) :: vs, (l, w) :: ws => k = l && v.same w && sameEntries vs ws
  | _, _ => false

end

mutual

theorem Value.same_iff (v w : Value) : v.same w = true ↔ v = w := by
  cases v with
  | array vs => cases w <;> simp [Value.same, sameItems_iff vs]
  | table vs => cases w <;> simp [Value.same, sameEntries_iff vs]
  | _ => cases w <;> simp [Value.same]

theorem sameItems_iff (vs ws : List Value) : sameItems vs ws = true ↔ vs = ws := by
  match vs, ws with
  | [], ws => cases ws <;> simp [sameItems]
  | v :: vs, ws => cases ws <;> simp [sameItems, Value.same_iff v, sameItems_iff vs]

theorem sameEntries_iff (vs ws : List (String × Value)) : sameEntries vs ws = true ↔ vs = ws := by
  match vs, ws with
  | [], ws => cases ws <;> simp [sameEntries]
  | (k, v) :: vs, ws => cases ws <;> simp [sameEntries, Value.same_iff v, sameEntries_iff vs, Prod.ext_iff]

end

instance : DecidableEq Value := fun v w => decidable_of_iff _ (Value.same_iff v w)

def Date.render (d : Date) : String :=
  padded 4 d.year ++ "-" ++ padded 2 d.month ++ "-" ++ padded 2 d.day

def Time.render (t : Time) : String :=
  padded 2 t.hour ++ ":" ++ padded 2 t.minute ++
    match t.second with
    | some s => ":" ++ padded 2 s ++ fraction 9 t.nanosecond
    | none => ""

def Offset.render : Offset → String
  | .utc => "Z"
  | .minutes m =>
    (if m < 0 then "-" else "+") ++ padded 2 (m.natAbs / 60) ++ ":" ++ padded 2 (m.natAbs % 60)

def DateTime.render : DateTime → String
  | .date d => d.render
  | .time t => t.render
  | .both d t offset => d.render ++ "T" ++ t.render ++ (offset.map Offset.render).getD ""

/-- The text of a value that is no array and no table. Strings are taken as they are. -/
def Value.scalarText? : Value → Option String
  | .string s => some s
  | .boolean b => some (if b then "true" else "false")
  | .integer n => some (toString n)
  | .float x => some x.render
  | .dateTime d => some d.render
  | .array _ | .table _ => none

end RegionNaming.Toml
