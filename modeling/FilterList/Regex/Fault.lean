/-!
Why a text is no regular expression.
-/

namespace FilterList.Regex

inductive Fault where
  | unclosedGroup
  | unopenedGroup
  | nothingToRepeat
  | unclosedCount
  | badCount
  | unclosedClass
  | badClassItem
  | badRange
  | endsInEscape
  | unknownEscape
  | badCodePoint
  | unknownProperty
  | unknownBoundary
  | badGroupName
  | repeatedGroupName
  | badFlags
  | lookAround
  | backReference
  /-- Outside Unicode mode, the expression could match a part of a character. -/
  | splitsCharacter
  /-- Outside Unicode mode, a class names a character beyond ASCII. -/
  | needsUnicode
  deriving Repr, DecidableEq

def Fault.message : Fault → String
  | unclosedGroup => "unclosed group"
  | unopenedGroup => "unopened group"
  | nothingToRepeat => "repetition operator missing expression"
  | unclosedCount => "unclosed counted repetition"
  | badCount => "invalid repetition count"
  | unclosedClass => "unclosed character class"
  | badClassItem => "invalid item in character class"
  | badRange => "invalid character class range"
  | endsInEscape => "incomplete escape sequence"
  | unknownEscape => "unrecognized escape sequence"
  | badCodePoint => "invalid code point"
  | unknownProperty => "Unicode property not found"
  | unknownBoundary => "unrecognized word boundary assertion"
  | badGroupName => "invalid group name"
  | repeatedGroupName => "duplicate group name"
  | badFlags => "invalid flags"
  | lookAround => "look-around is not supported"
  | backReference => "backreferences are not supported"
  | splitsCharacter => "pattern can match invalid UTF-8"
  | needsUnicode => "Unicode not allowed here"

end FilterList.Regex
