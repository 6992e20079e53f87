/-
The roles of Unicode characters where text is cut into grapheme clusters, words and sentences (version 16.0).

Each of the three rules sorts the characters into roles, and what has no role of its own is in no set here. Most roles
are combinations of categories and properties.
-/
import MetricQuery.Unicode.Property
import MetricQuery.Unicode.Script

namespace MetricQuery.Unicode

/-! ## Grapheme clusters -/

def carriageReturn : CodeSet := .single 0xD

def lineFeed : CodeSet := .single 0xA

def zeroWidthJoiner : CodeSet := .single 0x200D

/-- marks and modifiers that stay with the character before them -/
def clusterExtend : CodeSet := graphemeExtend ∪ emojiModifier

def clusterControl : CodeSet :=
  (Category.union [.lineSeparator, .paragraphSeparator, .control, .format] ∪
      (Category.unassigned.set ∩ defaultIgnorable)) \
    (carriageReturn ∪ lineFeed ∪ joinControl ∪ prependedMark ∪ clusterExtend)

/-- spacing marks, but for those of some scripts of South East Asia -/
def clusterSpacing : CodeSet :=
  (Category.spacingMark.set ∪ .ofCodes [0xE33, 0xEB3]) \ (clusterExtend ∪ .ofLines [
    "102B-102C 1038 1062-1064 1067-106D 1083 1087-108C 108F 109A-109C 1A61 1A63-1A64 AA7B AA7D 11720-11721"])

/-- marks that stand before the character they belong to -/
def clusterPrepend : CodeSet :=
  prependedMark ∪ .ofLines ["D4E 111C2-111C3 113D1 1193F 11941 11A3A 11A84-11A89 11D46 11F02"]

/-- the Hangul syllables without a final consonant -/
def openSyllables : CodeSet :=
  .ofCodes ((List.range 399).map fun i => 0xAC00 + 28 * i)

def closedSyllables : CodeSet := ⟨[(0xAC00, 0xD7A3)]⟩ \ openSyllables

def graphemeBreaks : List (List String × CodeSet) := [
  (["CN", "Control"], clusterControl),
  (["CR"], carriageReturn),
  (["EX", "Extend"], clusterExtend),
  (["L"], .ofLines ["1100-115F A960-A97C"]),
  (["LF"], lineFeed),
  (["LV"], openSyllables),
  (["LVT"], closedSyllables),
  (["PP", "Prepend"], clusterPrepend),
  (["RI", "Regional_Indicator"], regionalIndicator),
  (["SM", "SpacingMark"], clusterSpacing),
  (["T"], .ofLines ["11A8-11FF D7CB-D7FB"]),
  (["V"], .ofLines ["1160-11A7 D7B0-D7C6 16D63 16D67-16D6A"]),
  (["ZWJ"], zeroWidthJoiner)]

/-! ## Words -/

/-- the characters of a script under its short name -/
def scriptSet (name : String) : CodeSet :=
  match scripts.find? fun t => t.names.head? == some name with
  | some t => t.set
  | none => .empty

def wordExtend : CodeSet := clusterExtend ∪ Category.spacingMark.set

def wordFormat : CodeSet :=
  Category.format.set \ (.single 0x200B ∪ joinControl ∪ wordExtend ∪ prependedMark)

def wordKatakana : CodeSet := scriptSet "Kana" ∪ .ofLines ["3031-3035 309B-309C 30A0 30FC FF70"]

def hebrewLetter : CodeSet := scriptSet "Hebr" ∩ Category.otherLetter.set

/-- signs that count as letters, the letters apart that are written without spaces between words -/
def wordLetter : CodeSet :=
  (alphabetic ∪ .ofLines [
      "2C2-2C5 2D2-2D7 2DE-2DF 2E5-2EB 2ED 2EF-2FF 55A-55C 55E 58A 5F3 70F A708-A716 A720-A721 A789-A78A AB5B"]) \
    (ideographic ∪ wordKatakana ∪ scriptSet "Hira" ∪ wordExtend ∪ hebrewLetter ∪ .ofLines [
      "E01-E30 E32-E33 E40-E46 E81-E82 E84 E86-E8A E8C-EA3 EA5 EA7-EB0 EB2-EB3 EBD EC0-EC4 EC6 EDC-EDF",
      "1000-102A 103F 1050-1055 105A-105D 1061 1065-1066 106E-1070 1075-1081 108E 1780-17B3 17D7 17DC 1950-196D",
      "1970-1974 1980-19AB 19B0-19C9 1A20-1A54 1AA7 A9E0-A9E4 A9E6-A9EF A9FA-A9FE AA60-AA76 AA7A AA7E-AAAF AAB1",
      "AAB5-AAB6 AAB9-AABD AAC0 AAC2 AADB-AADD 11700-1171A 11740-11746"])

/-- digits and the marks that come before numbers -/
def wordNumeric : CodeSet :=
  Category.decimalNumber.set ∪ .single 0x66B ∪ (prependedMark \ .single 0x70F)

def wordBreaks : List (List String × CodeSet) := [
  (["CR"], carriageReturn),
  (["DQ", "Double_Quote"], .single 0x22),
  (["EX", "ExtendNumLet"], .ofLines ["5F 202F 203F-2040 2054 FE33-FE34 FE4D-FE4F FF3F"]),
  (["Extend"], wordExtend),
  (["FO", "Format"], wordFormat),
  (["HL", "Hebrew_Letter"], hebrewLetter),
  (["KA", "Katakana"], wordKatakana),
  (["LE", "ALetter"], wordLetter),
  (["LF"], lineFeed),
  (["MB", "MidNumLet"], midNumberOrLetter),
  (["ML", "MidLetter"], midLetter),
  (["MN", "MidNum"], .ofLines ["2C 3B 37E 589 60C-60D 66C 7F8 2044 FE10 FE14 FE50 FE54 FF0C FF1B"]),
  (["NL", "Newline"], .ofLines ["B-C 85 2028-2029"]),
  (["NU", "Numeric"], wordNumeric),
  (["RI", "Regional_Indicator"], regionalIndicator),
  (["SQ", "Single_Quote"], .single 0x27),
  (["WSegSpace"], .ofLines ["20 1680 2000-2006 2008-200A 205F 3000"]),
  (["ZWJ"], zeroWidthJoiner)]

/-! ## Sentences -/

def sentenceExtend : CodeSet := graphemeExtend ∪ Category.spacingMark.set ∪ zeroWidthJoiner

def sentenceFormat : CodeSet := Category.format.set \ (joinControl ∪ sentenceExtend ∪ prependedMark)

def sentenceSeparator : CodeSet := .ofLines ["85 2028-2029"]

def sentenceSpace : CodeSet := whiteSpace \ (sentenceSeparator ∪ carriageReturn ∪ lineFeed)

/-- lower case letters; the letters of modern Georgian count as having no case -/
def sentenceLower : CodeSet := lowercase \ (graphemeExtend ∪ .ofLines ["10D0-10FA 10FD-10FF"])

def sentenceUpper : CodeSet :=
  (Category.titlecaseLetter.set ∪ uppercase) \ .ofLines ["1C90-1CBA 1CBD-1CBF"]

def sentenceLetter : CodeSet :=
  (alphabetic ∪ .single 0x5F3) \ (sentenceLower ∪ sentenceUpper ∪ sentenceExtend)

/-- a full stop, which may also end an abbreviation -/
def sentenceStop : CodeSet := .ofLines ["2E 2024 FE52 FF0E"]

def sentenceEnd : CodeSet := sentenceTerminal \ sentenceStop

def sentenceClose : CodeSet :=
  (Category.union [.openPunctuation, .closePunctuation, .initialPunctuation, .finalPunctuation] ∪
      .ofLines ["22 27 275B-2760 2E00-2E01 2E06-2E08 2E0B 1F676-1F678"]) \
    (sentenceStop ∪ sentenceEnd)

def sentenceBreaks : List (List String × CodeSet) := [
  (["AT", "ATerm"], sentenceStop),
  (["CL", "Close"], sentenceClose),
  (["CR"], carriageReturn),
  (["EX", "Extend"], sentenceExtend),
  (["FO", "Format"], sentenceFormat),
  (["LE", "OLetter"], sentenceLetter),
  (["LF"], lineFeed),
  (["LO", "Lower"], sentenceLower),
  (["NU", "Numeric"], wordNumeric ∪ .single 0x66C),
  (["SC", "SContinue"], .ofLines [
    "2C-2D 3A-3B 37E 55D 60C-60D 7F8 1802 1808 2013-2014 3001 FE10-FE11 FE13-FE14 FE31-FE32 FE50-FE51 FE54-FE55",
    "FE58 FE63 FF0C-FF0D FF1A-FF1B FF64"]),
  (["SE", "Sep"], sentenceSeparator),
  (["SP", "Sp"], sentenceSpace),
  (["ST", "STerm"], sentenceEnd),
  (["UP", "Upper"], sentenceUpper)]

end MetricQuery.Unicode
