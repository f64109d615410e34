import LocatorPath.Regex.Error

/-! Why a text is not a path. -/
namespace LocatorPath

inductive NumberError where
  | badDigit
  | tooLarge
  deriving DecidableEq, Repr

def NumberError.message : NumberError → String
  | badDigit => "invalid digit found in string"
  | tooLarge => "number too large to fit in target type"

inductive Malformation where
  | emptyPath
  | emptySegment
  | badIndex (digits : String) (cause : NumberError)
  | missingAlias (segment : String)
  | badModifier (segment : String)
  deriving DecidableEq, Repr

def Malformation.message : Malformation → String
  | emptyPath => "path is empty"
  | emptySegment => "empty segment"
  | badIndex digits cause => "invalid index '" ++ digits ++ "': " ++ cause.message
  | missingAlias segment => "missing alias in '" ++ segment ++ "'"
  | badModifier segment => "segment '" ++ segment ++ "' is not a valid index or text filter"

inductive ParseError where
  | malformed (path : String) (reason : Malformation)
  | invalidRegex (pattern : String) (cause : Regex.SyntaxError)
  | allWithIndex (segment : String)
  deriving DecidableEq, Repr

namespace ParseError

def message : ParseError → String
  | malformed path reason => "Malformed path '" ++ path ++ "': " ++ reason.message
  | invalidRegex pattern cause =>
    "Invalid regular expression /" ++ pattern ++ "/: " ++ cause.message
  | allWithIndex segment =>
    "'all' cannot be combined with an index modifier: '" ++ segment ++ "'"

def within (path : String) : ParseError → ParseError
  | malformed _ reason => malformed path reason
  | e => e

end ParseError

end LocatorPath
