import LocatorPath.Octets
import LocatorPath.Yaml.Scalar

/-! The tokens of a document. Indentation becomes tokens that open and close blocks, and a key
that is known by the colon after it gets its token in front. Tags are octets, since their escapes
can write any. -/
namespace LocatorPath.Yaml

inductive Token where
  | version (major minor : Nat)
  | tagHandle (handle : String) (expansion : Octets)
  | documentStart
  | documentEnd
  | blockSequenceStart
  | blockMappingStart
  | blockEnd
  | flowSequenceStart
  | flowSequenceEnd
  | flowMappingStart
  | flowMappingEnd
  | blockEntry
  | flowEntry
  | key
  | value
  | reference (name : String)
  | anchor (name : String)
  | tag (handle : String) (suffix : Octets)
  | scalar (style : Style) (text : String)
  deriving DecidableEq, Repr

/-- A place where a key may have started that no token announces. A required one has to turn out
to be a key. -/
structure KeyPlace where
  required : Bool
  tokens : Nat
  index : Nat
  line : Nat
  column : Nat
  deriving DecidableEq, Repr

structure Lexer where
  cursor : Cursor
  tokens : Array Token := #[]
  keys : List (Option KeyPlace) := [none]
  keyAllowed : Bool := true
  indent : Option Nat := none
  outer : List (Option Nat) := []
  deriving Repr

namespace Lexer

def inFlow (l : Lexer) : Bool := 1 < l.keys.length

def fail {α : Type} (l : Lexer) (problem : String) : Except Error α := l.cursor.fail problem

def push (l : Lexer) (t : Token) : Lexer := {l with tokens := l.tokens.push t}

def insert (l : Lexer) (place : Nat) (t : Token) : Lexer :=
  {l with tokens := l.tokens.insertIdxIfInBounds place t}

def dropStale (l : Lexer) : Except Error Lexer := do
  let keys ← l.keys.mapM fun key =>
    match key with
    | none => pure none
    | some k =>
      if k.line < l.cursor.line || k.index + 1024 < l.cursor.index then
        if k.required then l.fail "could not find the expected ':'" else pure none
      else pure (some k)
  return {l with keys}

def removeKey (l : Lexer) : Except Error Lexer :=
  match l.keys with
  | some k :: rest =>
    if k.required then l.fail "could not find the expected ':'"
    else .ok {l with keys := none :: rest}
  | _ => .ok l

def saveKey (l : Lexer) : Except Error Lexer :=
  if l.keyAllowed then do
    let c := l.cursor
    let required := !l.inFlow && l.indent == some c.column
    let l ← l.removeKey
    let place : KeyPlace := ⟨required, l.tokens.size, c.index, c.line, c.column⟩
    return {l with keys := some place :: l.keys.tail}
  else .ok l

def isDeeper (l : Lexer) (column : Nat) : Bool := l.indent.all (· < column)

def roll (l : Lexer) (column place : Nat) (t : Token) : Lexer :=
  if !l.inFlow && l.isDeeper column then
    {l with indent := some column, outer := l.indent :: l.outer}.insert place t
  else l

def unrollTo (column : Option Nat) : List (Option Nat) → Lexer → Lexer
  | outer, l =>
    match outer with
    | [] => l
    | o :: rest =>
      if l.indent.any fun i => column.all (· < i) then
        unrollTo column rest ({l with indent := o, outer := rest}.push .blockEnd)
      else l

def unroll (l : Lexer) (column : Option Nat) : Lexer :=
  if l.inFlow then l else unrollTo column l.outer l

/-- Moves to the next token over blanks, comments and line breaks. A tab may not indent a line that
could start a key. A byte order mark at the start of a line takes a column but is no part of the
line. -/
def skipBetween : (rounds : Nat) → Lexer → Lexer
  | 0, l => l
  | rounds + 1, l =>
    let tabs := l.inFlow || !l.keyAllowed
    let c := l.cursor
    let c := if c.column == 0 && c.head? == some '\ufeff' then c.skip else c
    let c := c.skipWhile fun ch => ch == ' ' || (tabs && ch == '\t')
    let c := if c.head? == some '#' then c.skipWhile (!isBreak ·) else c
    if c.head?.any isBreak then
      skipBetween rounds
        {l with cursor := c.skipLine, keyAllowed := l.keyAllowed || !l.inFlow}
    else {l with cursor := c}

def word (c : Cursor) : String × Cursor :=
  let (name, c) := c.span isNameChar
  (String.ofList name, c)

def readVersionNumber (c : Cursor) : Except Error (Nat × Cursor) :=
  let (digits, next) := c.span Char.isDigit
  if digits.isEmpty || 9 < digits.length then c.fail "did not find the expected version number"
  else .ok (digits.foldl (fun n d => 10 * n + (d.toNat - '0'.toNat)) 0, next)

def readOctet (c : Cursor) : Except Error (UInt8 × Cursor) :=
  match c.rest with
  | '%' :: a :: b :: _ =>
    match hexValue? a, hexValue? b with
    | some a, some b => .ok (.ofNat (16 * a + b), c.skipMany 3)
    | _, _ => c.fail "did not find a URI escaped octet"
  | _ => c.fail "did not find a URI escaped octet"

def readTrailingOctets : Nat → Cursor → Except Error (Octets × Cursor)
  | 0, c => .ok ([], c)
  | count + 1, c => do
    let (octet, next) ← readOctet c
    if octet / 64 == 2 then do
      let (octets, next) ← readTrailingOctets count next
      return (octet :: octets, next)
    else c.fail "found an incorrect trailing UTF-8 octet"

def readEscapedOctets (c : Cursor) : Except Error (Octets × Cursor) := do
  let (octet, next) ← readOctet c
  let (octets, next) ←
    if octet < 0x80 then pure ([], next)
    else if octet / 32 == 6 then readTrailingOctets 1 next
    else if octet / 16 == 14 then readTrailingOctets 2 next
    else if octet / 8 == 30 then readTrailingOctets 3 next
    else c.fail "found an incorrect leading UTF-8 octet"
  return (octet :: octets, next)

def isTagChar (verbatim : Bool) (ch : Char) : Bool :=
  isNameChar ch || ";/?:@&=+$.%!~*'()".toList.contains ch ||
    (verbatim && (ch == ',' || ch == '[' || ch == ']'))

def readTagOctets (verbatim : Bool) : (rounds : Nat) → (octets : Octets) → Cursor →
    Except Error (Octets × Cursor)
  | 0, octets, c => .ok (octets, c)
  | rounds + 1, octets, c =>
    match c.head? with
    | none => .ok (octets, c)
    | some ch =>
      if !isTagChar verbatim ch then .ok (octets, c)
      else if ch == '%' then do
        let (more, next) ← readEscapedOctets c
        readTagOctets verbatim rounds (octets ++ more) next
      else readTagOctets verbatim rounds (octets ++ .ofText (String.singleton ch)) c.skip

def cutTag (octets : Octets) : Octets := octets.takeWhile (· != 0)

def readTagUri (verbatim : Bool) (c : Cursor) : Except Error (Octets × Cursor) := do
  let (octets, next) ← readTagOctets verbatim c.rounds [] c
  if octets.isEmpty then c.fail "did not find the expected tag URI"
  else return (cutTag octets, next)

def readTagHandle (c : Cursor) : Except Error (List Char × Cursor) :=
  if c.head? == some '!' then
    let (name, next) := c.skip.span isNameChar
    if next.head? == some '!' then .ok ('!' :: (name ++ ['!']), next.skip)
    else .ok ('!' :: name, next)
  else c.fail "did not find the expected '!'"

def readDirective (c : Cursor) : Except Error (Token × Cursor) := do
  let (name, after) := word c
  if name.isEmpty then c.fail "could not find the expected directive name"
  else if !endsWord after.head? then after.fail "found an unexpected character"
  else
    let after := after.skipWhile isSpace
    let (token, after) ←
      match name with
      | "YAML" => do
        let (major, c) ← readVersionNumber after
        if c.head? != some '.' then c.fail "did not find the expected '.'"
        else
          let (minor, c) ← readVersionNumber c.skip
          pure (Token.version major minor, c)
      | "TAG" => do
        let (handle, c) ← readTagHandle after
        if handle != ['!'] && handle.getLast? != some '!' then
          c.fail "did not find the expected '!'"
        else if !c.head?.any isSpace then c.fail "did not find the expected whitespace"
        else
          let (expansion, c) ← readTagUri true (c.skipWhile isSpace)
          if !endsWord c.head? then c.fail "did not find the expected whitespace or line break"
          else pure (Token.tagHandle (String.ofList handle) expansion, c)
      | _ => c.fail "found an unknown directive name"
    let after := after.skipToLineEnd
    if endsLine after.head? then return (token, after.skipLine)
    else after.fail "did not find the expected comment or line break"

def readName (c : Cursor) : Except Error (String × Cursor) :=
  let (name, after) := word c.skip
  if name.isEmpty || !(endsWord after.head? ||
      after.head?.any fun ch => "?:,]\x7d%@\x60".toList.contains ch) then
    c.fail "did not find the expected alphabetic or numeric character"
  else .ok (name, after)

def readTag (flow : Bool) (c : Cursor) : Except Error (Token × Cursor) := do
  let (token, after) ←
    if c.ahead? 1 == some '<' then do
      let (octets, after) ← readTagUri true (c.skipMany 2)
      if after.head? == some '>' then pure (Token.tag "" octets, after.skip)
      else after.fail "did not find the expected '>'"
    else do
      let (handle, after) ← readTagHandle c
      if 1 < handle.length && handle.getLast? == some '!' then do
        let (suffix, after) ← readTagUri false after
        pure (Token.tag (String.ofList handle) suffix, after)
      else do
        let start := Octets.ofText (String.ofList handle.tail)
        let (octets, after) ← readTagOctets false after.rounds start after
        let suffix := cutTag octets
        pure (if suffix.isEmpty then .tag "" (.ofText "!") else .tag "!" suffix, after)
  if endsWord after.head? || (flow && after.head? == some ',') then return (token, after)
  else after.fail "did not find the expected whitespace or line break"

def sign (l : Lexer) (t : Token) : Lexer := {l with cursor := l.cursor.skip}.push t

def closeAll (l : Lexer) : Except Error Lexer := do
  return {← (l.unroll none).removeKey with keyAllowed := false}

def readDocumentMark (l : Lexer) (t : Token) : Except Error Lexer := do
  let l ← l.closeAll
  return {l with cursor := l.cursor.skipMany 3}.push t

def openFlow (l : Lexer) (t : Token) : Except Error Lexer := do
  let l ← l.saveKey
  return {l with keys := none :: l.keys, keyAllowed := true}.sign t

def closeFlow (l : Lexer) (t : Token) : Except Error Lexer := do
  let l ← l.removeKey
  let keys := if l.inFlow then l.keys.tail else l.keys
  return {l with keys, keyAllowed := false}.sign t

def readFlowEntry (l : Lexer) : Except Error Lexer := do
  return {← l.removeKey with keyAllowed := true}.sign .flowEntry

def readBlockEntry (l : Lexer) : Except Error Lexer :=
  if !l.inFlow && !l.keyAllowed then
    l.fail "block sequence entries are not allowed in this context"
  else do
    let l := l.roll l.cursor.column l.tokens.size .blockSequenceStart
    return {← l.removeKey with keyAllowed := true}.sign .blockEntry

def readKey (l : Lexer) : Except Error Lexer :=
  if !l.inFlow && !l.keyAllowed then l.fail "mapping keys are not allowed in this context"
  else do
    let l := l.roll l.cursor.column l.tokens.size .blockMappingStart
    return {← l.removeKey with keyAllowed := !l.inFlow}.sign .key

def readValue (l : Lexer) : Except Error Lexer :=
  match l.keys with
  | some k :: rest =>
    let l := ({l with keys := none :: rest}.insert k.tokens .key).roll k.column k.tokens
      .blockMappingStart
    .ok ({l with keyAllowed := false}.sign .value)
  | _ =>
    if !l.inFlow && !l.keyAllowed then l.fail "mapping values are not allowed in this context"
    else
      let l := l.roll l.cursor.column l.tokens.size .blockMappingStart
      .ok ({l with keyAllowed := !l.inFlow}.sign .value)

def readKeyed (l : Lexer) (read : Cursor → Except Error (Token × Cursor)) :
    Except Error Lexer := do
  let l ← l.saveKey
  let (t, cursor) ← read l.cursor
  return {l with cursor, keyAllowed := false}.push t

def readBlockScalar (l : Lexer) (literal : Bool) : Except Error Lexer := do
  let l ← l.removeKey
  let (text, cursor) ← readBlock literal l.indent l.cursor.skip
  return {l with cursor, keyAllowed := true}.push
    (.scalar (if literal then .literal else .folded) (String.ofList text))

def readQuotedScalar (l : Lexer) (double : Bool) : Except Error Lexer :=
  l.readKeyed fun c => do
    let (text, next) ← readQuoted double c.rounds [] c.skip
    return (.scalar (if double then .doubleQuoted else .singleQuoted) (String.ofList text), next)

def readPlainScalar (l : Lexer) : Except Error Lexer := do
  let l ← l.saveKey
  let (s, cursor) ←
    readPlain l.inFlow (l.indent.elim 0 (· + 1)) l.cursor.rounds [] {} true l.cursor
  return {l with cursor, keyAllowed := s.broken}.push (.scalar .plain (String.ofList s.text))

/-- Whether a plain scalar may start here. A hyphen, a question mark or a colon starts one only
before a character that goes on with it. -/
def startsPlain (l : Lexer) (ch : Char) (next : Option Char) : Bool :=
  !(endsWord (some ch) || "-?:,[]\x7b\x7d#&*!|>'\"%@\x60".toList.contains ch) ||
    (ch == '-' && !next.any isSpace) ||
    (!l.inFlow && (ch == '?' || ch == ':') && !endsWord next)

def readToken (l : Lexer) (ch : Char) : Except Error Lexer :=
  let c := l.cursor
  let next := c.ahead? 1
  let sign := l.inFlow || endsWord next
  if c.column == 0 && ch == '%' then do
    let l ← l.closeAll
    let (t, cursor) ← readDirective l.cursor.skip
    return {l with cursor}.push t
  else if c.atMark '-' then l.readDocumentMark .documentStart
  else if c.atMark '.' then l.readDocumentMark .documentEnd
  else if ch == '[' then l.openFlow .flowSequenceStart
  else if ch == '\x7b' then l.openFlow .flowMappingStart
  else if ch == ']' then l.closeFlow .flowSequenceEnd
  else if ch == '\x7d' then l.closeFlow .flowMappingEnd
  else if ch == ',' then l.readFlowEntry
  else if ch == '-' && endsWord next then l.readBlockEntry
  else if ch == '?' && sign then l.readKey
  else if ch == ':' && sign then l.readValue
  else if ch == '*' then l.readKeyed fun c => do
    let (name, next) ← readName c
    return (.reference name, next)
  else if ch == '&' then l.readKeyed fun c => do
    let (name, next) ← readName c
    return (.anchor name, next)
  else if ch == '!' then l.readKeyed (readTag l.inFlow)
  else if (ch == '|' || ch == '>') && !l.inFlow then l.readBlockScalar (ch == '|')
  else if ch == '\'' || ch == '"' then l.readQuotedScalar (ch == '"')
  else if l.startsPlain ch next then l.readPlainScalar
  else l.fail "found a character that cannot start any token"

def readTokens : (rounds : Nat) → Lexer → Except Error (List Token)
  | 0, l => .ok l.tokens.toList
  | rounds + 1, l => do
    let l ← (skipBetween l.cursor.rounds l).dropStale
    let l := l.unroll (some l.cursor.column)
    match l.cursor.head? with
    | none => do return (← l.closeAll).tokens.toList
    | some ch => do readTokens rounds (← l.readToken ch)

end Lexer

def tokens (text : String) : Except Error (List Token) :=
  let c : Cursor := {rest := text.toList}
  if c.rest.all isAllowed then Lexer.readTokens c.rounds {cursor := c} else .error .notText

end LocatorPath.Yaml
