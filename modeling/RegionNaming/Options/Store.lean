import RegionNaming.Options.Key

/-! The options of a source text: a finite map from keys to texts, kept in the order of the keys. -/

namespace RegionNaming.Options

abbrev Lookup := String → Option String

abbrev Entry := String × String

/-- Entries in strictly ascending order of their keys. Texts are ordered by code point, which is
also the byte order of their UTF-8 forms. -/
abbrev Ascending (entries : List Entry) : Prop := entries.Pairwise fun a b => a.1 < b.1

def putEntry (key value : String) : List Entry → List Entry
  | [] => [(key, value)]
  | e :: rest =>
    if key < e.1 then (key, value) :: e :: rest
    else if key = e.1 then (key, value) :: rest
    else e :: putEntry key value rest

def findEntry (key : String) : List Entry → Option String
  | [] => none
  | e :: rest => if key = e.1 then some e.2 else findEntry key rest

theorem key_lt_of_not_lt {a b : String} (h : ¬ a < b) (hne : a ≠ b) : b < a := by
  rcases Classical.em (b < a) with hb | hb
  · exact hb
  · exact absurd (String.le_antisymm (String.not_lt.1 hb) (String.not_lt.1 h)) hne

theorem key_of_mem_putEntry {key value : String} {entries : List Entry} {e : Entry}
    (h : e ∈ putEntry key value entries) : e.1 = key ∨ e ∈ entries := by
  induction entries with
  | nil => simp_all [putEntry]
  | cons d rest ih =>
    rw [putEntry] at h
    split at h
    · grind
    · split at h
      · grind
      · grind

theorem ascending_putEntry {entries : List Entry} (key value : String) (h : Ascending entries) :
    Ascending (putEntry key value entries) := by
  induction entries with
  | nil => simp [putEntry, Ascending]
  | cons d rest ih =>
    have hd := List.pairwise_cons.1 h
    rw [putEntry]
    split
    case isTrue hlt =>
      refine List.pairwise_cons.2 ⟨fun e he => ?_, h⟩
      rcases List.mem_cons.1 he with rfl | he
      · exact hlt
      · exact String.lt_trans hlt (hd.1 e he)
    case isFalse hlt =>
      split
      case isTrue heq =>
        exact List.pairwise_cons.2 ⟨fun e he => heq ▸ hd.1 e he, hd.2⟩
      case isFalse hne =>
        refine List.pairwise_cons.2 ⟨fun e he => ?_, ih hd.2⟩
        rcases key_of_mem_putEntry he with hk | he
        · exact hk ▸ key_lt_of_not_lt hlt hne
        · exact hd.1 e he

structure Store where
  entries : List Entry
  ascending : Ascending entries
deriving DecidableEq

namespace Store

def empty : Store := ⟨[], List.Pairwise.nil⟩

def put (s : Store) (key value : String) : Store :=
  ⟨putEntry key value s.entries, ascending_putEntry key value s.ascending⟩

def get? (s : Store) (key : String) : Option String := findEntry key s.entries

def isEmpty (s : Store) : Bool := s.entries.isEmpty

def putAll (s : Store) (entries : List Entry) : Store :=
  entries.foldl (fun s e => s.put e.1 e.2) s

def ofList (entries : List Entry) : Store := empty.putAll entries

def merge (s other : Store) : Store := s.putAll other.entries

def insert (s : Store) (key value : String) : Store := s.put (fullKey key) value

end Store

end RegionNaming.Options
