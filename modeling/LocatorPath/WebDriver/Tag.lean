/-! Tags on the nodes that a script returns. A tag is an attribute whose value is the mark of the
call and the place of the node in the result, with a hyphen between them. -/
namespace LocatorPath.Tag

def attributeName : String := "data-elpath-js"

abbrev Mark := UInt64

def markText (m : Mark) : String := m.toNat.repr

def start (mark : String) : String := mark ++ "-"

def value (mark : String) (place : Nat) : String := start mark ++ place.repr

/-- Wraps a script so that each node it returns gets its tag. The wrapper answers whether the
script returned a list, and how many nodes. -/
def taggingScript (source mark : String) : String :=
  "\n        const result = (function () \x7b\n" ++ source ++
  "\n        \x7d).apply(null, arguments);\n" ++
  "        const isList = Array.isArray(result)\n" ++
  "            || result instanceof NodeList\n" ++
  "            || result instanceof HTMLCollection;\n" ++
  "        const nodes = result == null ? [] : (isList ? Array.from(result) : [result]);\n" ++
  "        nodes.forEach(function (node, i) \x7b node.setAttribute('" ++ attributeName ++
  "', '" ++ mark ++ "-' + i); \x7d);\n" ++
  "        return \x7b list: isList, count: nodes.length \x7d;\n" ++
  "        "

def selector (mark : String) : String :=
  "[" ++ attributeName ++ "^=\"" ++ start mark ++ "\"]"

def untaggingScript (mark : String) : String :=
  "document.querySelectorAll('" ++ selector mark ++
  "').forEach(function (node) \x7b node.removeAttribute('" ++ attributeName ++ "'); \x7d);"

def readPlace (cs : List Char) : Option Nat :=
  let digits := match cs with
    | '+' :: rest => rest
    | cs => cs
  if digits.isEmpty || !digits.all Char.isDigit then none
  else
    let n := digits.foldl (fun n c => 10 * n + (c.toNat - '0'.toNat)) 0
    if n < UInt64.size then some n else none

def place? (mark value : String) : Option Nat :=
  (start mark).toList.isPrefixOf? value.toList >>= readPlace

def order (mark : String) (value : Option String) : Nat :=
  (value >>= place? mark).getD (UInt64.size - 1)

end LocatorPath.Tag
