import LocatorPath.Files.Basic

/-! A tree of files held in memory. -/
namespace LocatorPath

/-- Files by the names that lead to them from the root, with the names that lead to the working
directory and to the home directory, which are there even if they hold nothing. -/
structure FileTree where
  files : List (List String × ByteArray)
  workplace : List String
  home : List String

namespace FileTree

def names (path : String) : List String := path.splitOn "/"

def plainNames (path : String) : List String :=
  (names path).filter fun name => name != "" && name != "."

def isDirectory (t : FileTree) (place : List String) : Bool :=
  place.isPrefixOf t.workplace || place.isPrefixOf t.home ||
    t.files.any fun f => place.isPrefixOf f.1 && place.length < f.1.length

def follow (t : FileTree) (place : List String) : List String → Option (List String)
  | [] => some place
  | name :: rest =>
    if !t.isDirectory place then none
    else
      t.follow (if name == "" || name == "." then place
        else if name == ".." then place.dropLast else place ++ [name]) rest

def place? (t : FileTree) (path : String) : Option (List String) :=
  if path.isEmpty then none
  else t.follow (if isAbsolute path then [] else t.workplace) (names path)

def contents? (t : FileTree) (path : String) : Option ByteArray :=
  t.place? path >>= fun place => t.files.lookup place

def read (t : FileTree) (path : String) : Except FileError String :=
  match t.contents? path with
  | none => .error .unreadable
  | some bytes =>
    match String.fromUTF8? bytes with
    | some text => .ok text
    | none => .error .notText

def isPresent (t : FileTree) (path : String) : Bool :=
  (t.place? path).any fun place => t.isDirectory place || (t.files.lookup place).isSome

def access {m : Type → Type} [Monad m] (t : FileTree) : Files m where
  read path := pure (t.read path)
  isPresent path := pure (t.isPresent path)
  home := some ("/" ++ "/".intercalate t.home)

end FileTree

end LocatorPath
