import FilterList.Unicode.CaseFold
import FilterList.Unicode.Category
import FilterList.Unicode.Property

/-!
Yes-or-no properties that follow from categories and other properties.
-/

namespace FilterList.Unicode

/-- Characters that letters and words are made of. -/
def alphabetic : CharSet := .unions [letter, category ["Nl"], otherAlphabetic]

def lowercase : CharSet := (category ["Ll"]).union otherLowercase

def uppercase : CharSet := (category ["Lu"]).union otherUppercase

/-- Characters that have a case. -/
def cased : CharSet := .unions [lowercase, uppercase, category ["Lt"]]

/-- Characters to be passed over where the case of a word is looked at. -/
def caseIgnorable : CharSet :=
  .unions [category ["Mn", "Me", "Cf", "Lm", "Sk"], midLetter, midNumLet, .ofHex "27"]

/-- Characters that extend the one before them. -/
def graphemeExtend : CharSet := (category ["Me", "Mn"]).union otherGraphemeExtend

/-- Characters that stand by themselves. -/
def graphemeBase : CharSet := (graphic.union (category ["Zs"])).diff graphemeExtend

def math : CharSet := (category ["Sm"]).union otherMath

/-- Code points to be passed over where they cannot be shown. -/
def defaultIgnorable : CharSet :=
  (CharSet.unions [otherDefaultIgnorable, category ["Cf"], variationSelector]).diff <|
    .unions [whiteSpace, prependedConcatenationMark, .ofHex "FFF9-FFFB 13430-13440"]

/-- Characters that may begin a name. -/
def idStart : CharSet :=
  (CharSet.unions [letter, category ["Nl"], otherIdStart]).diff
    (patternSyntax.union patternWhiteSpace)

/-- Characters that may stand in a name. -/
def idContinue : CharSet :=
  (CharSet.unions [idStart, category ["Mn", "Mc", "Nd", "Pc"], otherIdContinue]).diff
    (patternSyntax.union patternWhiteSpace)

/-- Characters that a normal form takes apart into some that no name may hold. -/
def fallsApart : CharSet := .ofHex
  "37A 309B-309C FC5E-FC63 FDFA-FDFB FE70 FE72 FE74 FE76 FE78 FE7A FE7C FE7E"

/-- Characters that may begin a name, also after it is brought into a normal form. -/
def xidStart : CharSet := idStart.diff (fallsApart.union (.ofHex "E33 EB3 FF9E-FF9F"))

/-- Characters that may stand in a name, also after it is brought into a normal form. -/
def xidContinue : CharSet := idContinue.diff fallsApart

/-- Characters with another case. To the members of the rows come those whose other case is more
than one character. -/
def changesWhenCasemapped : CharSet :=
  caseMembers.union <| .ofHex
    "130-131 149 1F0 587 1E96-1E9A 1F50 1F52 1F54 1F56 1FB2 1FB4 1FB6-1FB7 1FC2 1FC4 1FC6-1FC7
    1FD2 1FD6-1FD7 1FE2 1FE4 1FE6-1FE7 1FF2 1FF4 1FF6-1FF7 FB00-FB04 FB13-FB17"

def changesWhenLowercased : CharSet :=
  changesWhenCasemapped.inter (uppercase.union (category ["Lt"]))

def changesWhenUppercased : CharSet := changesWhenCasemapped.diff uppercase

/-- Georgian letters are their own title case, the capital halves of the digraphs are not. -/
def changesWhenTitlecased : CharSet :=
  (changesWhenUppercased.diff (.union (category ["Lt"]) (.range 0x10D0 0x10FF))).union <|
    .ofHex "1C4 1C7 1CA 1F1"

/-- Cherokee folds to upper case, all else to lower case. -/
def changesWhenCasefolded : CharSet :=
  (changesWhenLowercased.diff (.range 0x13A0 0x13F5)).union <| .ofHex
    "B5 DF 149 17F 345 3C2 3D0-3D1 3D5-3D6 3F0-3F1 3F5 587 13F8-13FD 1C80-1C88 1E9A-1E9B
    1F80-1F87 1F90-1F97 1FA0-1FA7 1FB2-1FB4 1FB7 1FC2-1FC4 1FC7 1FF2-1FF4 1FF7 AB70-ABBF
    FB00-FB06 FB13-FB17"

/-- The properties by the names they go by. -/
def properties : List NamedSet := Property.plain ++ [
  ⟨["Alphabetic", "Alpha"], alphabetic⟩,
  ⟨["Case_Ignorable", "CI"], caseIgnorable⟩,
  ⟨["Cased"], cased⟩,
  ⟨["Changes_When_Casefolded", "CWCF"], changesWhenCasefolded⟩,
  ⟨["Changes_When_Casemapped", "CWCM"], changesWhenCasemapped⟩,
  ⟨["Changes_When_Lowercased", "CWL"], changesWhenLowercased⟩,
  ⟨["Changes_When_Titlecased", "CWT"], changesWhenTitlecased⟩,
  ⟨["Changes_When_Uppercased", "CWU"], changesWhenUppercased⟩,
  ⟨["Default_Ignorable_Code_Point", "DI"], defaultIgnorable⟩,
  ⟨["Emoji_Modifier", "EMod"], emojiModifier⟩,
  ⟨["Grapheme_Base", "Gr_Base"], graphemeBase⟩,
  ⟨["Grapheme_Extend", "Gr_Ext"], graphemeExtend⟩,
  ⟨["ID_Continue", "IDC"], idContinue⟩,
  ⟨["ID_Start", "IDS"], idStart⟩,
  ⟨["Ideographic", "Ideo"], ideographic⟩,
  ⟨["Join_Control", "Join_C"], joinControl⟩,
  ⟨["Lowercase", "Lower"], lowercase⟩,
  ⟨["Math"], math⟩,
  ⟨["Other_Alphabetic", "OAlpha"], otherAlphabetic⟩,
  ⟨["Other_Default_Ignorable_Code_Point", "ODI"], otherDefaultIgnorable⟩,
  ⟨["Other_Grapheme_Extend", "OGr_Ext"], otherGraphemeExtend⟩,
  ⟨["Other_ID_Continue", "OIDC"], otherIdContinue⟩,
  ⟨["Other_ID_Start", "OIDS"], otherIdStart⟩,
  ⟨["Other_Lowercase", "OLower"], otherLowercase⟩,
  ⟨["Other_Math", "OMath"], otherMath⟩,
  ⟨["Other_Uppercase", "OUpper"], otherUppercase⟩,
  ⟨["Pattern_Syntax", "Pat_Syn"], patternSyntax⟩,
  ⟨["Pattern_White_Space", "Pat_WS"], patternWhiteSpace⟩,
  ⟨["Prepended_Concatenation_Mark", "PCM"], prependedConcatenationMark⟩,
  ⟨["Quotation_Mark", "QMark"], quotationMark⟩,
  ⟨["Regional_Indicator", "RI"], regionalIndicator⟩,
  ⟨["Sentence_Terminal", "STerm"], sentenceTerminal⟩,
  ⟨["Uppercase", "Upper"], uppercase⟩,
  ⟨["Variation_Selector", "VS"], variationSelector⟩,
  ⟨["White_Space", "WSpace", "space"], whiteSpace⟩,
  ⟨["XID_Continue", "XIDC"], xidContinue⟩,
  ⟨["XID_Start", "XIDS"], xidStart⟩]

end FilterList.Unicode
