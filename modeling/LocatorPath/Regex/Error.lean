/-! What can be wrong with the text of a regular expression. -/
namespace LocatorPath.Regex

inductive SyntaxError where
  | unclosedGroup
  | unopenedGroup
  | badGroupName
  | repeatedGroupName
  | badFlags
  | lookAround
  | backReference
  | nothingToRepeat
  | badCount
  | badEscape
  | badHexDigits
  | unclosedClass
  | badClassRange
  | badClassItem
  | unknownProperty
  | notUnicode
  | tooDeep
  | tooLarge
  deriving DecidableEq, Repr

def SyntaxError.message : SyntaxError → String
  | unclosedGroup => "unclosed group"
  | unopenedGroup => "unopened group"
  | badGroupName => "invalid capture group name"
  | repeatedGroupName => "duplicate capture group name"
  | badFlags => "invalid flags"
  | lookAround => "look-around is not supported"
  | backReference => "back-references are not supported"
  | nothingToRepeat => "repetition operator missing expression"
  | badCount => "invalid repetition count"
  | badEscape => "unrecognized escape sequence"
  | badHexDigits => "invalid hexadecimal character"
  | unclosedClass => "unclosed character class"
  | badClassRange => "invalid character class range"
  | badClassItem => "invalid item in character class"
  | unknownProperty => "Unicode property not found"
  | notUnicode => "pattern can match invalid text"
  | tooDeep => "pattern is nested too deeply"
  | tooLarge => "compiled pattern is too large"

end LocatorPath.Regex
