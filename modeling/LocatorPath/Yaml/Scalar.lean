import LocatorPath.Yaml.Cursor

/-! Scalars in their five styles: plain, quoted once or twice, literal and folded. -/
namespace LocatorPath.Yaml

inductive Style where
  | plain
  | singleQuoted
  | doubleQuoted
  | literal
  | folded
  deriving DecidableEq, Repr

structure Gap where
  blanks : List Char := []
  broken : Bool := false
  first : List Char := []
  others : List Char := []
  deriving DecidableEq, Repr

def Gap.folded (g : Gap) : List Char :=
  if !g.broken then g.blanks
  else if g.first == ['\n'] then (if g.others.isEmpty then [' '] else g.others)
  else g.first ++ g.others

def readGap (indent : Nat) : (rounds : Nat) → Gap → Cursor → Except Error (Gap × Cursor)
  | 0, g, c => .ok (g, c)
  | rounds + 1, g, c =>
    match c.head? with
    | none => .ok (g, c)
    | some ch =>
      if isSpace ch then
        if g.broken then
          if ch == '\t' && c.column < indent then c.fail "found a tab in the indentation"
          else readGap indent rounds g c.skip
        else readGap indent rounds {g with blanks := g.blanks ++ [ch]} c.skip
      else if isBreak ch then
        let (text, next) := c.readLine
        if g.broken then readGap indent rounds {g with others := g.others ++ text} next
        else readGap indent rounds ⟨[], true, text, []⟩ next
      else .ok (g, c)

def Cursor.rounds (c : Cursor) : Nat := c.rest.length + 1

def hexValue? (c : Char) : Option Nat :=
  if '0' ≤ c && c ≤ '9' then some (c.toNat - '0'.toNat)
  else if 'a' ≤ c && c ≤ 'f' then some (c.toNat - 'a'.toNat + 10)
  else if 'A' ≤ c && c ≤ 'F' then some (c.toNat - 'A'.toNat + 10)
  else none

def readHexChar (c : Cursor) (count : Nat) : Except Error (Char × Cursor) :=
  let digits := c.rest.take count
  if digits.length == count && digits.all fun d => (hexValue? d).isSome then
    let n := digits.foldl (fun n d => 16 * n + (hexValue? d).getD 0) 0
    if h : n.isValidChar then .ok (Char.ofNatAux n h, c.skipMany count)
    else c.fail "found an invalid character code"
  else c.fail "did not find the expected hexadecimal digits"

def escaped? : Char → Option Char
  | '0' => some '\x00'
  | 'a' => some '\x07'
  | 'b' => some '\x08'
  | 't' | '\t' => some '\t'
  | 'n' => some '\n'
  | 'v' => some '\x0b'
  | 'f' => some '\x0c'
  | 'r' => some '\r'
  | 'e' => some '\x1b'
  | ' ' => some ' '
  | '"' => some '"'
  | '/' => some '/'
  | '\\' => some '\\'
  | 'N' => some '\x85'
  | '_' => some '\xa0'
  | 'L' => some '\u2028'
  | 'P' => some '\u2029'
  | _ => none

def readEscape (c : Cursor) : Except Error (Char × Cursor) :=
  match c.head? with
  | none => c.fail "found an unknown escape"
  | some 'x' => readHexChar c.skip 2
  | some 'u' => readHexChar c.skip 4
  | some 'U' => readHexChar c.skip 8
  | some ch =>
    match escaped? ch with
    | some r => .ok (r, c.skip)
    | none => c.fail "found an unknown escape"

def readQuoted (double : Bool) : (rounds : Nat) → (text : List Char) → Cursor →
    Except Error (List Char × Cursor)
  | 0, _, c => c.fail "found an unexpected end of stream"
  | rounds + 1, text, c =>
    if c.atDocumentMark then c.fail "found an unexpected document indicator"
    else
      match c.head? with
      | none => c.fail "found an unexpected end of stream"
      | some ch =>
        if isSpace ch || isBreak ch then do
          let (gap, next) ← readGap 0 c.rounds {} c
          readQuoted double rounds (gap.folded.reverse ++ text) next
        else if !double && ch == '\'' then
          if c.ahead? 1 == some '\'' then readQuoted double rounds ('\'' :: text) (c.skipMany 2)
          else .ok (text.reverse, c.skip)
        else if double && ch == '"' then .ok (text.reverse, c.skip)
        else if double && ch == '\\' then
          if (c.ahead? 1).any isBreak then do
            let (gap, next) ← readGap 0 c.rounds {broken := true} c.skip.skipLine
            readQuoted double rounds (gap.folded.reverse ++ text) next
          else do
            let (r, next) ← readEscape c.skip
            readQuoted double rounds (r :: text) next
        else readQuoted double rounds (ch :: text) c.skip

def isFlowMark (c : Char) : Bool :=
  c == ',' || c == '[' || c == ']' || c == '\x7b' || c == '\x7d'

structure PlainScalar where
  text : List Char
  broken : Bool
  deriving DecidableEq, Repr

def readPlain (flow : Bool) (indent : Nat) : (rounds : Nat) → (text : List Char) → Gap →
    (atStart : Bool) → Cursor → Except Error (PlainScalar × Cursor)
  | 0, text, gap, _, c => .ok (⟨text.reverse, gap.broken⟩, c)
  | rounds + 1, text, gap, atStart, c =>
    let done : Except Error (PlainScalar × Cursor) := .ok (⟨text.reverse, gap.broken⟩, c)
    if atStart && (c.atDocumentMark || c.head? == some '#') then done
    else
      match c.head? with
      | none => done
      | some ch =>
        if isSpace ch || isBreak ch then do
          let (more, next) ← readGap indent c.rounds gap c
          if !flow && next.column < indent then return (⟨text.reverse, more.broken⟩, next)
          else readPlain flow indent rounds text more true next
        else if flow && ch == ':' && (c.ahead? 1).any (fun d => isFlowMark d || d == '?') then
          c.fail "found an unexpected ':'"
        else if (ch == ':' && endsWord (c.ahead? 1)) || (flow && isFlowMark ch) then done
        else readPlain flow indent rounds (ch :: (gap.folded.reverse ++ text)) {} false c.skip

/-- Reads the empty lines at the start of a block scalar or between its lines, up to the
indentation. Without a known indentation the deepest one of these lines is noted. -/
def readBlockBreaks (indent : Option Nat) : (rounds : Nat) → (deepest : Nat) →
    (breaks : List Char) → Cursor → Except Error (Nat × List Char × Cursor)
  | 0, deepest, breaks, c => .ok (deepest, breaks, c)
  | rounds + 1, deepest, breaks, c =>
    let inside (column : Nat) : Bool := indent.all (column < ·)
    let spaces := (c.rest.takeWhile (· == ' ')).length
    let c := c.skipMany (match indent with
      | none => spaces
      | some n => min spaces (n - c.column))
    let deepest := max deepest c.column
    if inside c.column && c.head? == some '\t' then c.fail "found a tab in the indentation"
    else if c.head?.any isBreak then
      let (text, next) := c.readLine
      readBlockBreaks indent rounds deepest (breaks ++ text) next
    else .ok (deepest, breaks, c)

inductive Chomping where
  | strip
  | clip
  | keep
  deriving DecidableEq, Repr

def Chomping.ofChar? : Char → Option Chomping
  | '-' => some strip
  | '+' => some keep
  | _ => none

def readBlockHeader (c : Cursor) : Except Error (Chomping × Option Nat × Cursor) := do
  let digit (c : Cursor) : Except Error (Option Nat × Cursor) :=
    match c.head? with
    | some d =>
      if d == '0' then c.fail "found an indentation indicator equal to 0"
      else if d.isDigit then .ok (some (d.toNat - '0'.toNat), c.skip) else .ok (none, c)
    | none => .ok (none, c)
  match c.head? >>= Chomping.ofChar? with
  | some chomping => do
    let (increment, c) ← digit c.skip
    return (chomping, increment, c)
  | none => do
    let (increment, c) ← digit c
    match increment, c.head? >>= Chomping.ofChar? with
    | some n, some chomping => return (chomping, some n, c.skip)
    | _, _ => return (.clip, increment, c)

/-- Reads the lines of a block scalar. `first` is the last line break and `breaks` the empty lines
after it; `indented` tells whether the line before starts with a blank. -/
def readBlockLines (literal : Bool) (chomping : Chomping) (indent : Nat) : (rounds : Nat) →
    (text first breaks : List Char) → (indented : Bool) → Cursor →
    Except Error (List Char × Cursor)
  | 0, text, _, _, _, c => .ok (text, c)
  | rounds + 1, text, first, breaks, indented, c =>
    if c.column == indent && c.head?.isSome then
      let blank := c.head?.any isSpace
      let join :=
        if !literal && first == ['\n'] && !indented && !blank then
          (if breaks.isEmpty then [' '] else breaks)
        else first ++ breaks
      let (line, c) := c.span (!isBreak ·)
      let (first, c) := c.readLine
      do
        let (_, breaks, c) ← readBlockBreaks (some indent) c.rounds 0 [] c
        readBlockLines literal chomping indent rounds (text ++ join ++ line) first breaks blank c
    else
      .ok (match chomping with
        | .strip => (text, c)
        | .clip => (text ++ first, c)
        | .keep => (text ++ first ++ breaks, c))

def readBlock (literal : Bool) (parent : Option Nat) (c : Cursor) :
    Except Error (List Char × Cursor) := do
  let (chomping, increment, c) ← readBlockHeader c
  let c := c.skipToLineEnd
  if !endsLine c.head? then c.fail "did not find the expected comment or line break"
  else
    let c := c.skipLine
    let known := increment.map fun n => parent.getD 0 + n
    let (deepest, breaks, c) ← readBlockBreaks known c.rounds 0 [] c
    let indent := known.getD (max (max deepest (parent.elim 0 (· + 1))) 1)
    readBlockLines literal chomping indent c.rounds [] [] breaks false c

end LocatorPath.Yaml
