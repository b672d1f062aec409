import RegionNaming.Toml.Value

/-! Tables while a document is read. What may still be added to a table depends on how it came to
be. -/

namespace RegionNaming.Toml

inductive TableKind where
  /-- By its own header, or as the whole document. -/
  | headed
  /-- On the way to a table with a header. -/
  | passed
  /-- On the way to a value with a dotted key. -/
  | dotted
deriving DecidableEq, Repr

inductive Draft where
  /-- A finished value, among them arrays and tables written as values. -/
  | value (v : Value)
  | table (kind : TableKind) (entries : List (String × Draft))
  /-- An array of tables by headers, the latest first. -/
  | tables (items : List (List (String × Draft)))

abbrev Drafts := List (String × Draft)

namespace Draft

def find? (key : String) : Drafts → Option Draft
  | [] => none
  | (k, d) :: rest => if k = key then some d else find? key rest

def put (key : String) (d : Draft) : Drafts → Drafts
  | [] => [(key, d)]
  | (k, e) :: rest =>
    if key < k then (key, d) :: (k, e) :: rest
    else if key = k then (key, d) :: rest
    else (k, e) :: put key d rest

/-- Changes the table at the end of a path. Tables that are missing on the way are made; an array of
tables stands for its latest. `dotted` says that the path comes from a dotted key: then it does not
lead into tables with a header of their own. -/
def descend (dotted : Bool) (change : TableKind → Drafts → Option Drafts) :
    (path : List String) → TableKind → Drafts → Option Drafts
  | [], kind, entries => change kind entries
  | key :: path, _, entries =>
    match find? key entries with
    | none => do
      let kind := if dotted then TableKind.dotted else .passed
      let sub ← descend dotted change path kind []
      some (put key (.table kind sub) entries)
    | some (.table kind sub) =>
      if dotted && kind = .headed then none
      else do
        let sub ← descend dotted change path kind sub
        some (put key (.table kind sub) entries)
    | some (.tables (latest :: others)) => do
      let latest ← descend dotted change path .headed latest
      some (put key (.tables (latest :: others)) entries)
    | some (.tables []) => none
    | some (.value _) => none

def within (change : Drafts → Option Drafts) (header : List String) (entries : Drafts) :
    Option Drafts :=
  descend false (fun _ sub => change sub) header .headed entries

/-- Adds a value under a dotted key. The table that takes it has to be the one at hand or one made
by dotted keys. -/
def addValue (path : List String) (key : String) (v : Value) (entries : Drafts) : Option Drafts :=
  let isDotted := !path.isEmpty
  descend isDotted (fun kind sub =>
    if decide (kind = .dotted) != isDotted then none
    else if (find? key sub).isSome then none
    else some (put key (.value v) sub)) path .headed entries

/-- Opens a table by its header. One that was only passed by other headers may be opened. -/
def openTable (path : List String) (key : String) (entries : Drafts) : Option Drafts :=
  descend false (fun _ sub =>
    match find? key sub with
    | none => some (put key (.table .headed []) sub)
    | some (.table .passed inner) => some (put key (.table .headed inner) sub)
    | some _ => none) path .headed entries

def openItem (path : List String) (key : String) (entries : Drafts) : Option Drafts :=
  descend false (fun _ sub =>
    match find? key sub with
    | none => some (put key (.tables [[]]) sub)
    | some (.tables items) => some (put key (.tables ([] :: items)) sub)
    | some _ => none) path .headed entries

mutual

def finish : Draft → Value
  | .value v => v
  | .table _ entries => .table (finishAll entries)
  | .tables items => .array (finishItems [] items)

def finishAll : List (String × Draft) → List (String × Value)
  | [] => []
  | (key, d) :: rest => (key, d.finish) :: finishAll rest

def finishItems (done : List Value) : List (List (String × Draft)) → List Value
  | [] => done
  | entries :: rest => finishItems (.table (finishAll entries) :: done) rest

end

end Draft

end RegionNaming.Toml
