import FilterList.Unicode.Derived
import FilterList.Unicode.Script

/-!
The classes by which text is cut up into graphemes, words and sentences.
-/

namespace FilterList.Unicode

private def carriageReturn : CharSet := .single '\r'

private def lineFeed : CharSet := .single '\n'

private def joiner : CharSet := .range 0x200D 0x200D

/-- Invisible characters at which no grapheme goes on. -/
def graphemeControl : CharSet :=
  (CharSet.unions [category ["Zl", "Zp", "Cc", "Cf"], defaultIgnorable.diff assigned]).diff <|
    .unions [carriageReturn, lineFeed, .range 0x200C 0x200D, prependedConcatenationMark,
      graphemeExtend]

/-- Visible marks that go with the character before them. -/
def spacingMark : CharSet :=
  ((category ["Mc"]).diff <| graphemeExtend.union <| .ofHex
    "102B-102C 1038 1062-1064 1067-106D 1083 1087-108C 108F 109A-109C 1A61 1A63-1A64 AA7B AA7D
    11720-11721").union (.ofHex "E33 EB3")

/-- Hangul syllables that end in a vowel: the first of each 28. -/
def openSyllable : CharSet :=
  .unions ((List.range 399).map fun n => .range (0xAC00 + 28 * n) (0xAC00 + 28 * n))

def graphemeBreaks : List NamedSet := [
  ⟨["CN", "Control"], graphemeControl⟩,
  ⟨["CR"], carriageReturn⟩,
  ⟨["LF"], lineFeed⟩,
  ⟨["EX", "Extend"], graphemeExtend.union emojiModifier⟩,
  ⟨["L"], .ofHex "1100-115F A960-A97C"⟩,
  ⟨["V"], .ofHex "1160-11A7 D7B0-D7C6 16D63 16D67-16D6A"⟩,
  ⟨["T"], .ofHex "11A8-11FF D7CB-D7FB"⟩,
  ⟨["LV"], openSyllable⟩,
  ⟨["LVT"], (CharSet.range 0xAC00 0xD7A3).diff openSyllable⟩,
  ⟨["PP", "Prepend"], .ofHex
    "600-605 6DD 70F 890-891 8E2 D4E 110BD 110CD 111C2-111C3 113D1 1193F 11941 11A3A 11A84-11A89
    11D46 11F02"⟩,
  ⟨["RI", "Regional_Indicator"], regionalIndicator⟩,
  ⟨["SM", "SpacingMark"], spacingMark⟩,
  ⟨["ZWJ"], joiner⟩]

/-- Format characters, which words pass over. -/
def wordFormat : CharSet :=
  (category ["Cf"]).diff <|
    .unions [graphemeExtend, prependedConcatenationMark, .ofHex "200B 200D"]

/-- Marks, which words take to the character before them. -/
def wordExtend : CharSet := .unions [graphemeExtend, category ["Mc"], emojiModifier]

/-- Digits and the signs that go before them. -/
def wordNumeric : CharSet :=
  decimalNumber.union (.ofHex "600-605 66B 6DD 890-891 8E2 19DA 110BD 110CD")

def hebrewLetter : CharSet := .ofHex
  "5D0-5EA 5EF-5F2 FB1D FB1F-FB28 FB2A-FB36 FB38-FB3C FB3E FB40-FB41 FB43-FB44 FB46-FB4F"

def katakana : CharSet := .ofHex
  "3031-3035 309B-309C 30A0-30FA 30FC-30FF 31F0-31FF 32D0-32FE 3300-3357 FF66-FF9D 1AFF0-1AFF3
  1AFF5-1AFFB 1AFFD-1AFFE 1B000 1B120-1B122 1B155 1B164-1B167"

/-- Letters of words between which blanks are written, and some signs that go with them. -/
def wordLetter : CharSet :=
  (alphabetic.diff <| .unions [ideographic, katakana, hebrewLetter, wordExtend, script ["Hira"],
    script ["Ahom", "Khmr", "Laoo", "Mymr", "Talu", "Tale", "Lana", "Tavt", "Thai"]]).union <|
    .ofHex
      "2C2-2C5 2D2-2D7 2DE-2DF 2E5-2EB 2ED 2EF-2FF 55A-55C 55E 58A 5F3 70F A708-A716 A720-A721
      A789-A78A AB5B"

def wordBreaks : List NamedSet := [
  ⟨["CR"], carriageReturn⟩,
  ⟨["LF"], lineFeed⟩,
  ⟨["NL", "Newline"], .ofHex "B-C 85 2028-2029"⟩,
  ⟨["DQ", "Double_Quote"], .ofHex "22"⟩,
  ⟨["SQ", "Single_Quote"], .ofHex "27"⟩,
  ⟨["EX", "ExtendNumLet"], .ofHex "5F 202F 203F-2040 2054 FE33-FE34 FE4D-FE4F FF3F"⟩,
  ⟨["Extend"], wordExtend⟩,
  ⟨["FO", "Format"], wordFormat⟩,
  ⟨["HL", "Hebrew_Letter"], hebrewLetter⟩,
  ⟨["KA", "Katakana"], katakana⟩,
  ⟨["LE", "ALetter"], wordLetter⟩,
  ⟨["MB", "MidNumLet"], midNumLet⟩,
  ⟨["ML", "MidLetter"], midLetter⟩,
  ⟨["MN", "MidNum"], .ofHex "2C 3B 37E 589 60C-60D 66C 7F8 2044 FE50 FE54 FF0C FF1B"⟩,
  ⟨["NU", "Numeric"], wordNumeric⟩,
  ⟨["RI", "Regional_Indicator"], regionalIndicator⟩,
  ⟨["WSegSpace"], .ofHex "20 1680 2000-2006 2008-200A 205F 3000"⟩,
  ⟨["ZWJ"], joiner⟩]

/-- Full stops, which may stand for an abbreviation as well as for an end. -/
def fullStop : CharSet := .ofHex "2E 2024 FE52 FF0E"

/-- Lower-case letters. The Georgian ones begin sentences too. -/
def sentenceLower : CharSet :=
  lowercase.diff (graphemeExtend.union (.ofHex "10D0-10FA 10FD-10FF"))

def sentenceUpper : CharSet :=
  (uppercase.union (category ["Lt"])).diff (.range 0x1C90 0x1CBF)

def sentenceExtend : CharSet := .unions [graphemeExtend, category ["Mc"], joiner]

def sentenceNumeric : CharSet := wordNumeric.union (.ofHex "66C")

/-- Brackets and quotes. -/
def sentenceClose : CharSet :=
  (CharSet.unions [category ["Ps", "Pe", "Pi", "Pf"], quotationMark,
    .ofHex "275B-2760 2E00-2E01 2E06-2E08 2E0B 1F676-1F678"]).diff (.ofHex "FF02 FF07")

def sentenceBreaks : List NamedSet := [
  ⟨["CR"], carriageReturn⟩,
  ⟨["LF"], lineFeed⟩,
  ⟨["SE", "Sep"], .ofHex "85 2028-2029"⟩,
  ⟨["Sp"], whiteSpace.diff (.ofHex "A D 85 2028-2029")⟩,
  ⟨["AT", "ATerm"], fullStop⟩,
  ⟨["ST", "STerm"], sentenceTerminal.diff fullStop⟩,
  ⟨["CL", "Close"], sentenceClose⟩,
  ⟨["SC", "SContinue"], .ofHex
    "2C-2D 3A-3B 37E 55D 60C-60D 7F8 1802 1808 2013-2014 3001 FE10-FE11 FE13-FE14 FE31-FE32
    FE50-FE51 FE54-FE55 FE58 FE63 FF0C-FF0D FF1A-FF1B FF64"⟩,
  ⟨["EX", "Extend"], sentenceExtend⟩,
  ⟨["FO", "Format"],
    (category ["Cf"]).diff (.unions [graphemeExtend, sentenceNumeric, joiner])⟩,
  ⟨["LO", "Lower"], sentenceLower⟩,
  ⟨["UP", "Upper"], sentenceUpper⟩,
  ⟨["NU", "Numeric"], sentenceNumeric⟩,
  ⟨["LE", "OLetter"], (alphabetic.union (.ofHex "5F3")).diff <|
    .unions [sentenceLower, sentenceUpper, sentenceExtend]⟩]

end FilterList.Unicode
