import LocatorPath.Page
import LocatorPath.WebDriver.Command

/-! A WebDriver server held in memory: one page in one session, whose nodes carry the tags of
scripts. Any command can be made to fail. -/
namespace LocatorPath

inductive ScriptResult where
  | nothing
  | single (node : Option Nat)
  | list (items : List (Option Nat))
  deriving DecidableEq, Repr

def ScriptResult.items : ScriptResult → List (Option Nat)
  | .nothing => []
  | .single node => [node]
  | .list items => items

def ScriptResult.isList : ScriptResult → Bool
  | .list _ => true
  | _ => false

/-- What running a script does: it throws, or returns a result. `summary` stands in for the answer
of the wrapper. -/
structure ScriptEntry where
  result : Except String ScriptResult
  summary : Option JsonValue := none

structure ServerNode where
  parent : Option Nat
  selectors : List String
  text : String
  stale : Bool
  attached : Bool := true
  tag : Option String
  shownTag : Option (Option String) := none
  deriving DecidableEq, Repr

structure CommandFailure where
  error : CommandError
  takesEffect : Bool := false
  deriving DecidableEq, Repr

structure Server where
  nodes : List ServerNode
  scripts : List (String × ScriptEntry)
  fails : Nat → Command Nat → Option CommandFailure
  url : String
  reachable : Bool := true
  log : List (Command Nat) := []

namespace Server

def size (s : Server) : Nat := s.nodes.length

def parent? (s : Server) (n : Nat) : Option Nat := s.nodes[n]? >>= ServerNode.parent

def isBelow (s : Server) (n ancestor : Nat) : Bool := leadsTo s.parent? ancestor s.size n

def nodesWhere (s : Server) (p : ServerNode → Bool) : List Nat :=
  (List.range s.size).filter fun n => s.nodes[n]?.any fun node => node.attached && p node

def matching (s : Server) (selector : String) : List Nat :=
  s.nodesWhere fun node => node.selectors.contains selector

def matchingBelow (s : Server) (n : Nat) (selector : String) : List Nat :=
  (s.matching selector).filter (s.isBelow · n)

def isTagged (mark : Tag.Mark) (tag : Option String) : Bool :=
  tag.any fun value => (Tag.start (Tag.markText mark)).toList.isPrefixOf value.toList

def tagged (s : Server) (mark : Tag.Mark) : List Nat :=
  s.nodesWhere fun node => isTagged mark node.tag

def setTag (s : Server) (n : Nat) (tag : Option String) : Server :=
  {s with nodes := s.nodes.modify n fun node => {node with tag}}

def untag (s : Server) (mark : Tag.Mark) : Server :=
  {s with nodes := s.nodes.map fun node =>
    if node.attached && isTagged mark node.tag then {node with tag := none} else node}

def scriptFailure (message : String) : CommandError := .answered "javascript error" message

/-- Tags the items of a result from a place on. What is no node cannot be tagged and ends the
script; the items before it keep their tags. -/
def tagItems (mark : Tag.Mark) : (place : Nat) → List (Option Nat) → Server →
    Except CommandError Unit × Server
  | _, [], s => (.ok (), s)
  | _, none :: _, s => (.error (scriptFailure "node.setAttribute is not a function"), s)
  | place, some n :: rest, s =>
    tagItems mark (place + 1) rest (s.setTag n (some (Tag.value (Tag.markText mark) place)))

def summaryOf (result : ScriptResult) : JsonValue :=
  .object [("list", .boolean (result.isList)),
    ("count", .number (result.items).length)]

def runTagging (s : Server) (source : String) (mark : Tag.Mark) :
    Except CommandError (Reply Nat) × Server :=
  match s.scripts.lookup source with
  | none => (.error (scriptFailure ("unknown script: " ++ source)), s)
  | some entry =>
    match entry.result with
    | .error message => (.error (scriptFailure message), s)
    | .ok result =>
      match tagItems mark 0 (result.items) s with
      | (.error e, s) => (.error e, s)
      | (.ok (), s) => (.ok (.summary (entry.summary.getD (summaryOf result))), s)

def noSuchElement : CommandError :=
  .answered "no such element" "no such element: Unable to locate element"

def firstOf : List Nat → Except CommandError (Reply Nat)
  | n :: _ => .ok (.element n)
  | [] => .error noSuchElement

def subject? : Command Nat → Option Nat
  | .find _ n _ _ | .text n | .readTag n => some n
  | _ => none

def staleFailure? (s : Server) (c : Command Nat) : Option CommandError := do
  let n ← subject? c
  let node ← s.nodes[n]?
  if node.stale then
    some (.answered "stale element reference" ("stale element reference: node " ++ n.repr))
  else none

def perform (s : Server) (c : Command Nat) : Except CommandError (Reply Nat) × Server :=
  match c with
  | .newSession _ | .deleteSession => (.ok .done, s)
  | .currentUrl => (.ok (.url s.url), s)
  | .goTo url => (.ok .done, {s with url})
  | .findRoot _ selector => (firstOf (s.matching selector), s)
  | .find .first n _ selector => (firstOf (s.matchingBelow n selector), s)
  | .find .all n _ selector => (.ok (.elements (s.matchingBelow n selector)), s)
  | .text n => (.ok (.text (s.nodes[n]?.elim "" ServerNode.text)), s)
  | .tag source mark => s.runTagging source mark
  | .findTagged mark => (.ok (.elements (s.tagged mark)), s)
  | .readTag n => (.ok (.tag (s.nodes[n]? >>= fun node => node.shownTag.getD node.tag)), s)
  | .untag mark => (.ok .done, s.untag mark)

/-- Receives a command: it is logged, then it fails if it is made to, else because of a stale node,
else it is carried out. -/
def receive (c : Command Nat) (s : Server) : Except CommandError (Reply Nat) × Server :=
  if !s.reachable then (.error .unreachable, s)
  else
    let planned := s.fails s.log.length c
    let s := {s with log := s.log ++ [c]}
    match planned with
    | some failure =>
      (.error failure.error, if failure.takesEffect then (s.perform c).2 else s)
    | none =>
      match s.staleFailure? c with
      | some e => (.error e, s)
      | none => s.perform c

def wire : Wire (StateM Server) Nat := fun c => ExceptT.mk (receive c)

end Server

end LocatorPath
