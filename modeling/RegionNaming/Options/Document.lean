import RegionNaming.Toml.Flatten
import RegionNaming.Toml.Reader

/-! Options from TOML documents. -/

namespace RegionNaming.Options

inductive DocumentError where
  | malformed (text : String)
  | flatten (e : Toml.FlattenError)
deriving DecidableEq, Repr

def Store.ofDocument (text : String) : Except DocumentError Store :=
  match Toml.read? text with
  | none => .error (.malformed text)
  | some entries => (Toml.flatten entries).mapError .flatten

end RegionNaming.Options
