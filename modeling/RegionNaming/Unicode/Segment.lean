import RegionNaming.Unicode.Property
import RegionNaming.Unicode.Script

/-! How characters behave at the bounds of user-perceived characters, words and sentences. -/

namespace RegionNaming.Unicode

open CodeSet

def ofScript (name : String) : CodeSet := ((script? name).map Script.set).getD []

def joiner : CodeSet := single 0x200D

def plainFormat : CodeSet := Category.cf.set.diff (read "200C-200D E0020-E007F")

/-- The Georgian letters whose case is not used inside sentences. -/
def mkhedruli : CodeSet := read "10D0-10FA 10FD-10FF"

def mtavruli : CodeSet := read "1C90-1CBA 1CBD-1CBF"

def hangulOpen : CodeSet := (List.range 399).map fun i => (0xAC00 + 28 * i, 0xAC00 + 28 * i)

/-- Spacing marks that stand for a user-perceived character of their own or are part of one
by a rule of their script. -/
def spacingExceptions : CodeSet :=
  read "102B-102C 1038 1062-1064 1067-106D 1083 1087-108C 108F 109A-109C 1A61 1A63-1A64 AA7B AA7D
    11720-11721"

def prepend : CodeSet :=
  read "600-605 6DD 70F 890-891 8E2 D4E 110BD 110CD 111C2-111C3 113D1 1193F 11941 11A3A 11A84-11A89
    11D46 11F02"

def graphemeBreak? (value : String) : Option CodeSet :=
  match value with
  | "control" | "cn" =>
    some (((categories [.zl, .zp, .cc, .cf]).union
      (read "2065 FFF0-FFF8 E0000 E0002-E001F E0080-E00FF E01F0-E0FFF")).diff
      (unionAll [read "A D 200C-200D E0020-E007F", prepend]))
  | "cr" => some (single 0xD)
  | "extend" | "ex" => some (graphemeExtend.union (listed "emojimodifier"))
  | "l" => some (read "1100-115F A960-A97C")
  | "lf" => some (single 0xA)
  | "lv" => some hangulOpen
  | "lvt" => some (diff [(0xAC00, 0xD7A3)] hangulOpen)
  | "prepend" | "pp" => some prepend
  | "regionalindicator" | "ri" => some (listed "regionalindicator")
  | "spacingmark" | "sm" =>
    some (((Category.mc.set.diff graphemeExtend).union (read "E33 EB3")).diff spacingExceptions)
  | "t" => some (read "11A8-11FF D7CB-D7FB")
  | "v" => some (read "1160-11A7 16D63 16D67-16D6A D7B0-D7C6")
  | "zwj" => some joiner
  | _ => none

def katakanaLike : CodeSet :=
  (ofScript "katakana").union (read "3031-3035 309B-309C 30A0 30FC FF70")

def wordExtend : CodeSet :=
  (unionAll [graphemeExtend, Category.mc.set, listed "emojimodifier"]).diff joiner

def unspaced : CodeSet :=
  read "E01-E3A E40-E4E E81-E82 E84 E86-E8A E8C-EA3 EA5 EA7-EBD EC0-EC4 EC6 EC8-ECE EDC-EDF 1000-103F
    1050-108F 109A-109F 1780-17D3 17D7 17DC-17DD 1950-196D 1970-1974 1980-19AB 19B0-19C9 19DA
    19DE-19DF 1A20-1A5E 1A60-1A7C 1AA0-1AAD A9E0-A9EF A9FA-A9FE AA60-AAC2 AADB-AADF 11700-1171A
    1171D-1172B 1173A-1173B 1173F-11746"

def hebrewLetter : CodeSet := (ofScript "hebrew").inter Category.lo.set

def wordBreak? (value : String) : Option CodeSet :=
  match value with
  | "aletter" | "le" =>
    some ((alphabetic.diff (unionAll [listed "ideographic", katakanaLike, ofScript "hiragana",
      wordExtend, hebrewLetter, unspaced])).union
      (read "2C2-2C5 2D2-2D7 2DE-2DF 2E5-2EB 2ED 2EF-2FF 55A-55C 55E 58A 5F3 70F A708-A716 A720-A721
        A789-A78A AB5B"))
  | "cr" => some (single 0xD)
  | "doublequote" | "dq" => some (single 0x22)
  | "extend" => some wordExtend
  | "extendnumlet" | "ex" => some (Category.pc.set.union (single 0x202F))
  | "format" | "fo" => some (plainFormat.diff (read "70F 200B"))
  | "hebrewletter" | "hl" => some hebrewLetter
  | "katakana" | "ka" => some katakanaLike
  | "lf" => some (single 0xA)
  | "midletter" | "ml" => some (read "3A B7 387 55F 5F4 2027 FE13 FE55 FF1A")
  | "midnum" | "mn" => some (read "2C 3B 37E 589 60C-60D 66C 7F8 2044 FE10 FE14 FE50 FE54 FF0C FF1B")
  | "midnumlet" | "mb" => some (read "2E 2018-2019 2024 FE52 FF07 FF0E")
  | "newline" | "nl" => some (read "B-C 85 2028-2029")
  | "numeric" | "nu" => some (Category.nd.set.union (single 0x66B))
  | "regionalindicator" | "ri" => some (listed "regionalindicator")
  | "singlequote" | "sq" => some (single 0x27)
  | "wsegspace" => some (Category.zs.set.diff (read "A0 2007 202F"))
  | "zwj" => some joiner
  | _ => none

def sentenceExtend : CodeSet := unionAll [graphemeExtend, Category.mc.set, joiner]

def sentenceLower : CodeSet := lowercase.diff (sentenceExtend.union mkhedruli)

def sentenceUpper : CodeSet := (uppercase.union Category.lt.set).diff mtavruli

def sentenceBreak? (value : String) : Option CodeSet :=
  match value with
  | "aterm" | "at" => some (read "2E 2024 FE52 FF0E")
  | "close" | "cl" =>
    some ((categories [.ps, .pe, .pi, .pf]).union
      (read "22 27 275B-2760 2E00-2E01 2E06-2E08 2E0B 1F676-1F678"))
  | "cr" => some (single 0xD)
  | "extend" | "ex" => some sentenceExtend
  | "format" | "fo" => some plainFormat
  | "lf" => some (single 0xA)
  | "lower" | "lo" => some sentenceLower
  | "numeric" | "nu" => some (Category.nd.set.union (read "66B-66C"))
  | "oletter" | "le" =>
    some ((alphabetic.union (single 0x5F3)).diff
      (unionAll [sentenceExtend, sentenceLower, sentenceUpper]))
  | "scontinue" | "sc" =>
    some (read "2C-2D 3A 55D 60C-60D 7F8 1802 1808 2013-2014 3001 FE10-FE11 FE13 FE31-FE32 FE50-FE51
      FE55 FE58 FE63 FF0C-FF0D FF1A FF64")
  | "sep" | "se" => some (read "85 2028-2029")
  | "sp" => some ((listed "whitespace").diff (read "A D 85 2028-2029"))
  | "sterm" | "st" =>
    some ((listed "sentenceterminal").diff
      (read "2E 17D4-17D5 2024 2CF9-2CFB FE12 FE15-FE16 FE52 FF0E"))
  | "upper" | "up" => some sentenceUpper
  | _ => none

end RegionNaming.Unicode
