import RegionNaming.Toml.Value

/-! A table as options: the keys on the way to a value make its key. -/

namespace RegionNaming.Toml

open Options

inductive FlattenError where
  /-- The array under this key holds an array or a table. -/
  | unsupportedItem (key : String)
  /-- The value under this key is no table and no array, and has no text either. -/
  | unsupportedValue (key : String)
deriving DecidableEq, Repr

def FlattenError.messages : FlattenError → List String
  | .unsupportedItem key => ["Unsupported array item in '" ++ key ++ "'", "expected a scalar value"]
  | .unsupportedValue key => ["Unsupported value for '" ++ key ++ "'", "expected a scalar value"]

/-- The key of an entry of the table at `path`. At the top, and below empty keys at the top, it is
the entry's own key. -/
def joinKey (path key : String) : String := if path = "" then key else path ++ "." ++ key

def arrayText? (items : List Value) : Option String :=
  (items.mapM Value.scalarText?).map (String.intercalate ";")

mutual

def Value.options (path : String) : Value → Except FlattenError (List Entry)
  | .table entries => tableOptions path entries
  | .array items =>
    match arrayText? items with
    | some text => .ok [(path, text)]
    | none => .error (.unsupportedItem path)
  | v =>
    match v.scalarText? with
    | some text => .ok [(path, text)]
    | none => .error (.unsupportedValue path)

def tableOptions (path : String) : List (String × Value) → Except FlattenError (List Entry)
  | [] => .ok []
  | (key, value) :: rest =>
    match value.options (joinKey path key) with
    | .error e => .error e
    | .ok first =>
      match tableOptions path rest with
      | .error e => .error e
      | .ok others => .ok (first ++ others)

end

/-- The options of a whole table; of options with the same key the last one stays. -/
def flatten (entries : List (String × Value)) : Except FlattenError Store :=
  (tableOptions "" entries).map Store.ofList

end RegionNaming.Toml
