/-! What can be reported about the name of a region. -/

namespace RegionNaming

inductive Finding where
  /-- Nothing is configured and the name is no default name. -/
  | noConfig
  /-- The name is not in the given list. -/
  | invalidName
  /-- The name matches none of the given patterns. -/
  | invalidPattern
  /-- The region has no name, and has to have one. -/
  | empty
deriving DecidableEq, Repr

inductive Severity where
  | warning
deriving DecidableEq, Repr

def Severity.name : Severity → String
  | .warning => "warning"

structure FindingDetails where
  id : String
  title : String
  /-- The text of a message, with a mark `{0}` where its argument goes. -/
  template : String
  category : String
  severity : Severity
  enabled : Bool
  description : String
deriving DecidableEq, Repr

def Finding.details : Finding → FindingDetails
  | .noConfig => {
      id := "RR1999"
      title := "No .editorconfig configuration"
      template := "Region name '\x7b0\x7d' does not match default rules. " ++
        "Configure .editorconfig to customize allowed region names"
      category := "Structure"
      severity := .warning
      enabled := true
      description := "No custom configuration found in .editorconfig. " ++
        "Region name must match default naming rules or configure " ++
        "region_ruler.allowed_region_name or region_ruler.allowed_regex_pattern in .editorconfig." }
  | .invalidName => {
      id := "RR2001"
      title := "Invalid #region name"
      template := "Region name '\x7b0\x7d' is not in the allowed names list"
      category := "Structure"
      severity := .warning
      enabled := true
      description := "Region name must be in the configured allowed names list." }
  | .invalidPattern => {
      id := "RR2002"
      title := "Invalid #region pattern"
      template := "Region name '\x7b0\x7d' does not match any allowed regex pattern"
      category := "Structure"
      severity := .warning
      enabled := true
      description := "Region name must match at least one of the configured regex patterns." }
  | .empty => {
      id := "RR2003"
      title := "Empty #region name"
      template := "Region name cannot be empty"
      category := "Structure"
      severity := .warning
      enabled := true
      description := "Region must have a name when empty names are not allowed." }

def Finding.all : List Finding := [.noConfig, .invalidName, .invalidPattern, .empty]

def Finding.ofId? (id : String) : Option Finding := all.find? (·.details.id == id)

namespace FindingDetails

/-- Puts an argument in the place of every mark `{0}` of a text. What was put in is not looked through
for marks. -/
def fill (argument : List Char) : List Char → List Char
  | '\x7b' :: '0' :: '\x7d' :: rest => argument ++ fill argument rest
  | c :: rest => c :: fill argument rest
  | [] => []

def message (d : FindingDetails) (argument : String) : String :=
  String.ofList (fill argument.toList d.template.toList)

end FindingDetails

end RegionNaming
