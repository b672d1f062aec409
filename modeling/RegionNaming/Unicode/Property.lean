import RegionNaming.Unicode.Category
import RegionNaming.Unicode.PropertyTable
import RegionNaming.Unicode.Uppercase

/-! Binary properties that the standard derives from categories and listed properties. -/

namespace RegionNaming.Unicode

open CodeSet

def lowercase : CodeSet := Category.ll.set.union (listed "otherlowercase")

def uppercase : CodeSet := Category.lu.set.union (listed "otheruppercase")

def alphabetic : CodeSet :=
  unionAll [letter, Category.nl.set, lowercase, uppercase, listed "otheralphabetic"]

def graphemeExtend : CodeSet := (categories [.mn, .me]).union (listed "othergraphemeextend")

def patternKept : CodeSet := (listed "patternsyntax").union (listed "patternwhitespace")

def idStart : CodeSet := (unionAll [letter, Category.nl.set, listed "otheridstart"]).diff patternKept

def idContinue : CodeSet :=
  (unionAll [idStart, categories [.mn, .mc, .nd, .pc], listed "otheridcontinue"]).diff patternKept

def changesLowercased : CodeSet :=
  (uppercase.union Category.lt.set).diff (read
    "3D2-3D4 2102 2107 210B-210D 2110-2112 2115 2119-211D 2124 2128 212C-212D 2130-2131 2133
    213E-213F 2145 1D400-1D419 1D434-1D44D 1D468-1D481 1D49C 1D49E-1D49F 1D4A2 1D4A5-1D4A6
    1D4A9-1D4AC 1D4AE-1D4B5 1D4D0-1D4E9 1D504-1D505 1D507-1D50A 1D50D-1D514 1D516-1D51C
    1D538-1D539 1D53B-1D53E 1D540-1D544 1D546 1D54A-1D550 1D56C-1D585 1D5A0-1D5B9 1D5D4-1D5ED
    1D608-1D621 1D63C-1D655 1D670-1D689 1D6A8-1D6C0 1D6E2-1D6FA 1D71C-1D734 1D756-1D76E
    1D790-1D7A8 1D7CA 1F130-1F149 1F150-1F169 1F170-1F189")

/-- The letters whose capitals are newer than the tables of properties. -/
def newlyCased : CodeSet := read "A7CF A7D3 A7D5 16EBB-16ED3"

def changesUppercased : CodeSet :=
  ((ofCodes (uppercaseRuns.flatMap fun r => r.pairs.map (·.1))).diff newlyCased).union (read
    "DF 149 1F0 390 3B0 587 1E96-1E9A 1F50 1F52 1F54 1F56 1F80-1FAF 1FB2-1FB4 1FB6-1FB7 1FBC
    1FC2-1FC4 1FC6-1FC7 1FCC 1FD2-1FD3 1FD6-1FD7 1FE2-1FE4 1FE6-1FE7 1FF2-1FF4 1FF6-1FF7 1FFC
    FB00-FB06 FB13-FB17")

def changesTitlecased : CodeSet :=
  (changesUppercased.union (read "1C4 1C7 1CA 1F1")).diff (read
    "1C5 1C8 1CB 1F2 10D0-10FA 10FD-10FF 1F88-1F8F 1F98-1F9F 1FA8-1FAF 1FBC 1FCC 1FFC")

def changesCasefolded : CodeSet :=
  (changesLowercased.diff (read "13A0-13F5")).union (read
    "B5 DF 149 17F 345 3C2 3D0-3D1 3D5-3D6 3F0-3F1 3F5 587 13F8-13FD 1C80-1C88 1E9A-1E9B 1F80-1F87
    1F90-1F97 1FA0-1FA7 1FB2-1FB4 1FB7 1FC2-1FC4 1FC7 1FF2-1FF4 1FF7 AB70-ABBF FB00-FB06 FB13-FB17")

def caseIgnorable : CodeSet :=
  (categories [.mn, .me, .cf, .lm, .sk]).union (read
    "27 2E 3A B7 387 55F 5F4 2018-2019 2024 2027 FE13 FE52 FE55 FF07 FF0E FF1A")

def derived? (name : String) : Option CodeSet :=
  match name with
  | "alphabetic" | "alpha" => some alphabetic
  | "caseignorable" | "ci" => some caseIgnorable
  | "cased" => some (unionAll [lowercase, uppercase, Category.lt.set])
  | "changeswhencasefolded" | "cwcf" => some changesCasefolded
  | "changeswhencasemapped" | "cwcm" =>
    some (unionAll [changesLowercased, changesUppercased, changesTitlecased])
  | "changeswhenlowercased" | "cwl" => some changesLowercased
  | "changeswhentitlecased" | "cwt" => some changesTitlecased
  | "changeswhenuppercased" | "cwu" => some changesUppercased
  | "graphemebase" | "grbase" =>
    some (assigned.diff ((categories [.cc, .cf, .co, .zl, .zp]).union graphemeExtend))
  | "graphemeextend" | "grext" => some graphemeExtend
  | "idcontinue" | "idc" => some idContinue
  | "idstart" | "ids" => some idStart
  | "lowercase" | "lower" => some lowercase
  | "math" => some (Category.sm.set.union (listed "othermath"))
  | "uppercase" | "upper" => some uppercase
  | "xidcontinue" | "xidc" => some (idContinue.diff (read
    "37A 309B-309C FC5E-FC63 FDFA-FDFB FE70 FE72 FE74 FE76 FE78 FE7A FE7C FE7E"))
  | "xidstart" | "xids" => some (idStart.diff (read
    "37A E33 EB3 309B-309C FC5E-FC63 FDFA-FDFB FE70 FE72 FE74 FE76 FE78 FE7A FE7C FE7E FF9E-FF9F"))
  | _ => none

def binary? (name : String) : Option CodeSet := (derived? name).orElse fun _ => listed? name

/-- Word characters: letters and the like, marks, decimal numbers, connectors and joiners. -/
def word : CodeSet :=
  unionAll [alphabetic, mark, categories [.nd, .pc], listed "joincontrol"]

def alphanumeric : CodeSet := alphabetic.union (categories [.nd, .nl, .no])

end RegionNaming.Unicode
