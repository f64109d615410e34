/-! Reading files, and paths of files as texts. -/
namespace LocatorPath

inductive FileError where
  | unreadable
  | notText
  deriving DecidableEq, Repr

def FileError.message : FileError → String
  | unreadable => "the file cannot be read"
  | notText => "stream did not contain valid UTF-8"

structure Files (m : Type → Type) where
  read : String → m (Except FileError String)
  isPresent : String → m Bool
  home : Option String

def isAbsolute (path : String) : Bool := path.toList.head? == some '/'

/-- Takes slashes, and dots that stand for the same directory, off the end of a path given
backwards. A single slash or dot is kept. -/
def trimSlashes : List Char → List Char
  | ['/'] => ['/']
  | '/' :: rest => trimSlashes rest
  | '.' :: '/' :: rest => if rest.isEmpty then ['/'] else trimSlashes rest
  | cs => cs

def directoryOf (path : String) : String :=
  String.ofList (trimSlashes (path.toList.reverse.dropWhile (· != '/'))).reverse

def joinPath (directory path : String) : String :=
  if directory.isEmpty || directory.toList.getLast? == some '/' then directory ++ path
  else directory ++ "/" ++ path

end LocatorPath
