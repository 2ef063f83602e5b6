import PageHarvest.Yaml.Token

/-!
YAML nodes from tokens: scalars, sequences and mappings with their tags, anchors put in where they are
used. A text is one document. Each collection within another takes room on the stack.
-/
namespace PageHarvest.Yaml

/-- A node with its tag. A scalar without a tag was either plain or quoted. -/
inductive Node where
  | scalar (tag : Option String) (plain : Bool) (text : String)
  | sequence (tag : Option String) (items : List Node)
  | mapping (tag : Option String) (entries : List (Node × Node))
  /-- A sequence or mapping inside itself. -/
  | again (sequence : Bool)
  deriving Inhabited

/-- The failure of collections for which the stack has no room. -/
def tooDeep : Failure := Cause.tooDeep ""

/-- The node of a place where nothing is written. -/
def Node.nothing : Node := .scalar none true ""

structure Parse where
  tokens : List Token
  /-- The fault that comes after the tokens, unless they are all there are. -/
  fault : Option Failure
  anchors : Table String Node := []
  /-- Names of anchors whose nodes are being read, and whether these are sequences. -/
  pending : Table String Bool := []
  /-- Tag handles and what they stand for. -/
  handles : Table String String
  /-- How many more collections may lie within one another. -/
  room : Nat

abbrev Parser := StateT Parse (Except Failure)

namespace Parser

/-- The next token; before a fault there is always one. -/
def peek : Parser Token := do
  let s ← get
  match s.tokens, s.fault with
  | t :: _, _ => return t
  | [], some f => throw f
  | [], none => return .streamEnd

def drop : Parser Unit := modify fun s => { s with tokens := s.tokens.drop 1 }

def refuse {α : Type} : Parser α := throw malformed

def takeIf (t : Token) : Parser Bool := do
  if (← peek) == t then
    drop
    return true
  else return false

def take (t : Token) : Parser Unit := do
  if !(← takeIf t) then refuse

/-- The tag that a handle and a suffix make. -/
def resolved (handle : Option String) (suffix : String) : Parser String := do
  match handle with
  | none => return suffix
  | some h =>
    match (← get).handles.get? h with
    | some expansion => return expansion ++ suffix
    | none => refuse

def anchor? : Parser (Option String) := do
  match ← peek with
  | .anchor name => do
    drop
    return some name
  | _ => return none

def tag? : Parser (Option String) := do
  match ← peek with
  | .tag handle suffix => do
    drop
    return some (← resolved handle suffix)
  | _ => return none

/-- Tag and anchor before a node, in either order. -/
def properties : Parser (Option String × Option String) := do
  match ← anchor? with
  | some a => return (← tag?, some a)
  | none => do
    let tag ← tag?
    return (tag, ← anchor?)

/-- Notes that the node of an anchor is being read. No name is used twice. -/
def announce (anchor : Option String) : Parser Unit := do
  match anchor with
  | none => return
  | some a =>
    let s ← get
    let sequence := match ← peek with
      | .flowSequenceStart | .sequenceStart | .blockEntry => true
      | _ => false
    if s.pending.has a || s.anchors.has a then refuse
    else modify fun s => { s with pending := (a, sequence) :: s.pending }

/-- Files the node of an anchor. -/
def settle (anchor : Option String) (node : Node) : Parser Node := do
  match anchor with
  | none => return node
  | some a =>
    modify fun s =>
      { s with anchors := s.anchors.put a node, pending := s.pending.filter (·.1 != a) }
    return node

/-- The lone sign, which asks for a scalar to be read as if it were plain. -/
def plainTag : String := "!"

/-- Goes down into a collection, where there is less room. -/
def into {α : Type} (inside : Parser α) : Parser α := do
  if (← get).room == 0 then throw tooDeep
  modify fun s => { s with room := s.room - 1 }
  let read ← inside
  modify fun s => { s with room := s.room + 1 }
  return read

mutual

/-- A node. Blocks may come only where `block` allows, and a sequence without indentation of its own
only as the key or value of a block mapping. -/
def node (block bare : Bool) : Nat → Parser Node
  | 0 => refuse
  | n + 1 => do
    match ← peek with
    | .alias name => do
      drop
      match (← get).anchors.get? name, (← get).pending.get? name with
      | some found, _ => return found
      | none, some sequence => return .again sequence
      | none, none => refuse
    | _ => do
      let (tag, anchor) ← properties
      let named := tag.isSome || anchor.isSome
      announce anchor
      let read ← content tag block bare named n
      settle anchor read

/-- What follows the tag and anchor of a node. -/
def content (tag : Option String) (block bare named : Bool) : Nat → Parser Node
  | 0 => refuse
  | n + 1 => do
    match ← peek with
    | .scalar text plain => do
      drop
      if tag == some plainTag then return .scalar none true text
      else return .scalar tag plain text
    | .flowSequenceStart => into do
      drop
      return .sequence tag (← flowItems true n)
    | .flowMappingStart => into do
      drop
      return .mapping tag (← flowEntries true n)
    | .blockEntry =>
      if bare then into do return .sequence tag (← bareItems n)
      else orEmpty tag named
    | .sequenceStart =>
      if block then into do
        drop
        return .sequence tag (← blockItems n)
      else orEmpty tag named
    | .mappingStart =>
      if block then into do
        drop
        return .mapping tag (← blockEntries n)
      else orEmpty tag named
    | _ => orEmpty tag named

/-- Nothing at all, which only a tag or an anchor can stand before. -/
def orEmpty (tag : Option String) (named : Bool) : Parser Node :=
  if named then return .scalar (if tag == some plainTag then none else tag) true "" else refuse

/-- A node, or nothing before one of the tokens given. -/
def nodeBefore (ends : List Token) (block bare : Bool) : Nat → Parser Node
  | 0 => refuse
  | n + 1 => do
    if ends.contains (← peek) then return .nothing else node block bare n

def blockItems : Nat → Parser (List Node)
  | 0 => refuse
  | n + 1 => do
    if ← takeIf .blockEntry then
      let item ← nodeBefore [.blockEntry, .blockEnd] true false n
      return item :: (← blockItems n)
    else
      take .blockEnd
      return []

def bareItems : Nat → Parser (List Node)
  | 0 => refuse
  | n + 1 => do
    if ← takeIf .blockEntry then
      let item ← nodeBefore [.blockEntry, .key, .value, .blockEnd] true false n
      return item :: (← bareItems n)
    else return []

def blockEntries : Nat → Parser (List (Node × Node))
  | 0 => refuse
  | n + 1 => do
    if ← takeIf .key then
      let ends : List Token := [.key, .value, .blockEnd]
      let key ← nodeBefore ends true true n
      let value ← if ← takeIf .value then nodeBefore ends true true n else pure .nothing
      return (key, value) :: (← blockEntries n)
    else
      take .blockEnd
      return []

/-- The key of an entry between brackets that end with `close`, and its value. -/
def flowEntry (close : Token) : Nat → Parser (Node × Node)
  | 0 => refuse
  | n + 1 => do
    let key ← nodeBefore [.value, .flowEntry, close] false false n
    let value ← if ← takeIf .value then nodeBefore [.flowEntry, close] false false n else pure .nothing
    return (key, value)

def flowItems (first : Bool) : Nat → Parser (List Node)
  | 0 => refuse
  | n + 1 => do
    if ← takeIf .flowSequenceEnd then return []
    if !first then take .flowEntry
    if ← takeIf .key then
      let pair ← into (flowEntry .flowSequenceEnd n)
      return .mapping none [pair] :: (← flowItems false n)
    else if ← takeIf .flowSequenceEnd then return []
    else
      let item ← node false false n
      return item :: (← flowItems false n)

def flowEntries (first : Bool) : Nat → Parser (List (Node × Node))
  | 0 => refuse
  | n + 1 => do
    if ← takeIf .flowMappingEnd then return []
    if !first then take .flowEntry
    if ← takeIf .key then
      let entry ← flowEntry .flowMappingEnd n
      return entry :: (← flowEntries false n)
    else if ← takeIf .flowMappingEnd then return []
    else
      let key ← node false false n
      return (key, .nothing) :: (← flowEntries false n)

end

/-- Tag handles that need no directive. -/
def standardHandles : Table String String := [("!", "!"), ("!!", "tag:yaml.org,2002:")]

/-- Directives before a document. -/
def directives (seen : Option Nat) (handles : Table String String) : Nat → Parser Unit
  | 0 => refuse
  | n + 1 => do
    match ← peek with
    | .version major => do
      drop
      if seen.isSome || major != 1 then refuse else directives (some major) handles n
    | .handle name expansion => do
      drop
      if handles.has name then refuse else directives seen (handles.put name expansion) n
    | .reserved => do
      drop
      directives seen handles n
    | _ =>
      let missing := standardHandles.filter fun h => !handles.has h.1
      modify fun s => { s with handles := handles ++ missing }

/-- Ends of documents, which may be given more than once. -/
def skipEnds : Nat → Parser Unit
  | 0 => return
  | n + 1 => do if ← takeIf .documentEnd then skipEnds n

/-- Tokens that a document with content does not start with. -/
def isBoundary : Token → Bool
  | .version _ | .handle _ _ | .reserved | .documentStart | .documentEnd | .streamEnd => true
  | _ => false

/-- The only document of a text, if there is one. -/
def document (n : Nat) : Parser (Option Node) := do
  let first ← peek
  let root ←
    if first == .streamEnd then pure none
    else if isBoundary first && first != .documentEnd then do
      directives none [] n
      take .documentStart
      if isBoundary (← peek) then pure (some .nothing) else some <$> node true false n
    else some <$> node true false n
  skipEnds n
  take .streamEnd
  return root

end Parser

/-- The node of a text; an empty text has none. -/
def Node.ofText [Stack] (text : List Char) : Except Failure (Option Node) := do
  let (ts, fault) := tokens text
  let n := 4 * ts.length + 8
  let (root, _) ← (Parser.document n).run
    { tokens := ts, fault, handles := Parser.standardHandles, room := Stack.yaml }
  return root

end PageHarvest.Yaml
