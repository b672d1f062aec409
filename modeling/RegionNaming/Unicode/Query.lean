import RegionNaming.Unicode.Age
import RegionNaming.Unicode.Segment

/-! Sets of characters asked for by the name of a property, alone or with a value. -/

namespace RegionNaming.Unicode

open CodeSet

/-- A name for loose comparison: ASCII only, in lower case, without spaces, low lines, hyphens and
an initial `is`. The name `isc` keeps its start, since it is a property of its own. -/
def looseName (name : List Char) : String :=
  let lower := name.map Char.toLower
  let starts := lower.take 2 = ['i', 's']
  let body := (if starts then lower.drop 2 else lower).filter fun c =>
    c.toNat ≤ 0x7F && c ≠ ' ' && c ≠ '_' && c ≠ '-'
  if starts && body = ['c'] then "isc" else String.ofList body

def category? (name : String) : Option CodeSet :=
  match name with
  | "any" => some full
  | "assigned" => some assigned
  | "ascii" => some ascii
  | "l" | "letter" => some letter
  | "lc" | "casedletter" => some (categories [.lu, .ll, .lt])
  | "lu" | "uppercaseletter" => some Category.lu.set
  | "ll" | "lowercaseletter" => some Category.ll.set
  | "lt" | "titlecaseletter" => some Category.lt.set
  | "lm" | "modifierletter" => some Category.lm.set
  | "lo" | "otherletter" => some Category.lo.set
  | "m" | "mark" | "combiningmark" => some mark
  | "mn" | "nonspacingmark" => some Category.mn.set
  | "mc" | "spacingmark" => some Category.mc.set
  | "me" | "enclosingmark" => some Category.me.set
  | "n" | "number" => some (categories [.nd, .nl, .no])
  | "nd" | "decimalnumber" | "digit" => some Category.nd.set
  | "nl" | "letternumber" => some Category.nl.set
  | "no" | "othernumber" => some Category.no.set
  | "p" | "punctuation" | "punct" => some (categories [.pc, .pd, .ps, .pe, .pi, .pf, .po])
  | "pc" | "connectorpunctuation" => some Category.pc.set
  | "pd" | "dashpunctuation" => some Category.pd.set
  | "ps" | "openpunctuation" => some Category.ps.set
  | "pe" | "closepunctuation" => some Category.pe.set
  | "pi" | "initialpunctuation" => some Category.pi.set
  | "pf" | "finalpunctuation" => some Category.pf.set
  | "po" | "otherpunctuation" => some Category.po.set
  | "s" | "symbol" => some (categories [.sm, .sc, .sk, .so])
  | "sm" | "mathsymbol" => some Category.sm.set
  | "sc" | "currencysymbol" => some Category.sc.set
  | "sk" | "modifiersymbol" => some Category.sk.set
  | "so" | "othersymbol" => some Category.so.set
  | "z" | "separator" => some (categories [.zs, .zl, .zp])
  | "zs" | "spaceseparator" => some Category.zs.set
  | "zl" | "lineseparator" => some Category.zl.set
  | "zp" | "paragraphseparator" => some Category.zp.set
  | "c" | "other" => some (unassigned.union (categories [.cc, .cf, .co]))
  | "cc" | "control" | "cntrl" => some Category.cc.set
  | "cf" | "format" => some Category.cf.set
  | "cn" | "unassigned" => some unassigned
  | "co" | "privateuse" => some Category.co.set
  | _ => none

/-- The set that a lone name stands for: a binary property, else a category, else a script. -/
def named? (name : List Char) : Option CodeSet :=
  let name := looseName name
  if name = "isc" then none
  else ((binary? name).orElse fun _ => category? name).orElse fun _ => (script? name).map Script.set

def valued? (property value : List Char) : Option CodeSet :=
  let value := looseName value
  match looseName property with
  | "generalcategory" | "gc" => category? value
  | "script" | "sc" => (script? value).map Script.set
  | "scriptextensions" | "scx" => (script? value).map Script.usedIn
  | "age" => presentIn? value
  | "graphemeclusterbreak" | "gcb" => graphemeBreak? value
  | "wordbreak" | "wb" => wordBreak? value
  | "sentencebreak" | "sb" => sentenceBreak? value
  | _ => none

end RegionNaming.Unicode
