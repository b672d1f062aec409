import RegionNaming.Text.Blank
import RegionNaming.Text.Split

/-! The keys of the options. -/

namespace RegionNaming.Options

def keyStart : String := "region_ruler."

def allowedNamesKey : String := "region_ruler.allowed_region_name"

def allowedPatternsKey : String := "region_ruler.allowed_regex_pattern"

def allowEmptyKey : String := "region_ruler.allow_empty"

def caseSensitiveKey : String := "region_ruler.case_sensitive"

/-- The full key for a key as a user writes it: trimmed, with the common start put before it
unless it is there already. -/
def fullKey (key : String) : String :=
  let key := Text.trimChars key.toList
  if (Text.after? keyStart.toList key).isSome then String.ofList key
  else keyStart ++ String.ofList key

end RegionNaming.Options
