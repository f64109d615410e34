import LocatorPath.Regex.Error
import LocatorPath.Unicode.Character

/-! Flags of a regular expression, and the skipping of blanks and comments in verbose mode. -/
namespace LocatorPath.Regex

structure Flags where
  ignoreCase : Bool := false
  multiLine : Bool := false
  dotAll : Bool := false
  crlf : Bool := false
  unicode : Bool := true
  swapGreed : Bool := false
  verbose : Bool := false
  deriving DecidableEq, Repr

def Flags.put (f : Flags) (on : Bool) : Char → Option Flags
  | 'i' => some {f with ignoreCase := on}
  | 'm' => some {f with multiLine := on}
  | 's' => some {f with dotAll := on}
  | 'R' => some {f with crlf := on}
  | 'u' => some {f with unicode := on}
  | 'x' => some {f with verbose := on}
  | 'U' => some {f with swapGreed := on}
  | _ => none

/-- Reads flags up to a colon or a closing parenthesis, which is left in place. Each flag and the
minus may stand once, and a flag follows the minus. The characters seen so far come last first. -/
def Flags.read (f : Flags) (on : Bool) (seen : List Char) :
    List Char → Except SyntaxError (Flags × List Char)
  | [] => .error .unclosedGroup
  | c :: rest =>
    if c == ':' || c == ')' then
      if seen.head? == some '-' then .error .badFlags else .ok (f, c :: rest)
    else if seen.contains c then .error .badFlags
    else if c == '-' then f.read false (c :: seen) rest
    else
      match f.put on c with
      | some g => g.read on (c :: seen) rest
      | none => .error .badFlags

def skipIgnored : (inComment : Bool) → List Char → List Char
  | _, [] => []
  | true, c :: rest => skipIgnored (c != '\n') rest
  | false, c :: rest =>
    if Unicode.isBlank c then skipIgnored false rest
    else if c == '#' then skipIgnored true rest
    else c :: rest

def skip (verbose : Bool) (cs : List Char) : List Char :=
  if verbose then skipIgnored false cs else cs

def takeSpaced (verbose : Bool) (p : Char → Bool) :
    (inComment : Bool) → List Char → List Char × List Char
  | _, [] => ([], [])
  | true, c :: rest => takeSpaced verbose p (c != '\n') rest
  | false, c :: rest =>
    if verbose && Unicode.isBlank c then takeSpaced verbose p false rest
    else if verbose && c == '#' then takeSpaced verbose p true rest
    else if p c then
      let (taken, after) := takeSpaced verbose p false rest
      (c :: taken, after)
    else ([], c :: rest)

end LocatorPath.Regex
