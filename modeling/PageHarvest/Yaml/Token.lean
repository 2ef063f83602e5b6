import PageHarvest.Text.Utf8
import PageHarvest.Yaml.Scalar

/-!
Tokens of YAML text. Indentation becomes tokens that open and close collections. Whether something was
a key is known only at the colon after it, so that the tokens which announce keys are kept apart with
their places and put in at the end. Tokens are there to be read before a fault that comes after them.
-/
namespace PageHarvest.Yaml

inductive Token where
  /-- A version, of which only the first number counts. -/
  | version (major : Nat)
  | handle (name expansion : String)
  | reserved
  | documentStart
  | documentEnd
  | streamEnd
  | sequenceStart
  | mappingStart
  | blockEnd
  | flowSequenceStart
  | flowSequenceEnd
  | flowMappingStart
  | flowMappingEnd
  | flowEntry
  | blockEntry
  | key
  | value
  | alias (name : String)
  | anchor (name : String)
  | tag (handle : Option String) (suffix : String)
  | scalar (text : String) (plain : Bool)
  deriving Repr, DecidableEq, Inhabited

/-! Names and tags -/

def isNameChar (c : Char) : Bool := c.isAlphanum || c == '-' || c == '_'

/-- The name of an anchor or alias, its sign being read. -/
def anchorName (c : Cursor) : Except Failure (String × Cursor) :=
  let (name, c) := c.run isNameChar
  let after := c.peek
  if name.isEmpty || !(isSpaceOrEnd after || "?:,]\x7d%@\x60".contains after) then .error malformed
  else .ok (String.ofList name, c)

/-- A tag handle: one sign, or a name between two. -/
def tagHandle (c : Cursor) : Except Failure (String × Cursor) :=
  if c.peek != '!' then .error malformed
  else if c.peek 1 == ' ' then .ok ("!", c.step)
  else
    let (name, after) := c.step.run isNameChar
    if after.peek == '!' then .ok (String.ofList ('!' :: name ++ ['!']), after.step)
    else .error malformed

def isUriChar (c : Char) : Bool :=
  c.isAlphanum || "-;/?:@&=+$,_.!~*'()[]%".contains c

/-- Bytes written as percent signs with two digits each. -/
def percentBytes? : List Char → Option (List UInt8)
  | [] => some []
  | '%' :: a :: b :: rest => do
    return UInt8.ofNat (← hexNumber? [a, b]) :: (← percentBytes? rest)
  | _ => none

/-- The characters of a tag with its escapes resolved. -/
def unescaped : Nat → List Char → Except Failure (List Char)
  | 0, _ => .ok []
  | n + 1, cs =>
    match cs with
    | [] => .ok []
    | '%' :: _ =>
      let size := escapesIn cs.length cs
      match (percentBytes? (cs.take size)).map Text.Utf8.decode with
      | some (.ok s) => do return s.toList ++ (← unescaped n (cs.drop size))
      | _ => .error malformed
    | c :: rest => do return c :: (← unescaped n rest)
where
  /-- The length of the escapes that text starts with. -/
  escapesIn : Nat → List Char → Nat
    | 0, _ => 0
    | n + 1, '%' :: rest => 3 + escapesIn n (rest.drop 2)
    | _ + 1, _ => 0

/-- The text of a tag, which may not be empty. -/
def tagUri (c : Cursor) : Except Failure (String × Cursor) := do
  let (cs, after) := c.run isUriChar
  if cs.isEmpty then .error malformed
  let cs ← unescaped cs.length cs
  return (String.ofList cs, after)

/-- Whether a second sign ends the handle of a tag before the tag ends. -/
def hasHandle (cs : List Char) : Bool :=
  match cs.dropWhile fun c => c != '!' && !(isBreak c || c == ' ') with
  | c :: _ => c == '!'
  | [] => false

def tagToken (c : Cursor) : Except Failure (Token × Cursor) := do
  let next := c.peek 1
  let (token, c) ←
    if next == '<' then do
      let (uri, c) ← tagUri (c.skip 2)
      if c.peek != '>' then .error malformed
      pure (Token.tag none uri, c.step)
    else if isSpaceOrEnd next then pure (Token.tag none "!", c.step)
    else do
      let (handle, c) ← if hasHandle (c.rest.drop 1) then tagHandle c else pure ("!", c.step)
      let (suffix, c) ← tagUri c
      pure (Token.tag (some handle) suffix, c)
  if isSpaceOrEnd c.peek && c.peek != '\t' then return (token, c) else .error malformed

/-! Directives -/

/-- Whether a part of a directive ends here. -/
def endsPart (c : Cursor) : Bool := isSpaceOrEnd c.peek && c.peek != '\t'

def digits (c : Cursor) : Except Failure (Nat × Cursor) :=
  let (ds, after) := c.run Char.isDigit
  if ds.isEmpty then .error malformed
  else .ok (ds.foldl (fun n d => n * 10 + (d.toNat - 48)) 0, after)

/-- A directive from its sign on, up to the end of its line. -/
def directive (c : Cursor) : Except Failure (Token × Cursor) := do
  let (name, c) := c.step.run isNameChar
  if name.isEmpty || !endsPart c then .error malformed
  let blanks (c : Cursor) : Cursor := c.skipWhile (· == ' ')
  let (token, c) ←
    if name == "YAML".toList then do
      let (major, c) ← digits (blanks c)
      if c.peek != '.' then .error malformed
      let (_, c) ← digits c.step
      if !endsPart c then .error malformed
      pure (Token.version major, c)
    else if name == "TAG".toList then do
      let (handle, c) ← tagHandle (blanks c)
      if c.peek != ' ' then .error malformed
      let (expansion, c) ← tagUri (blanks c)
      if !endsPart c then .error malformed
      pure (Token.handle handle expansion, c)
    else pure (Token.reserved, c.skipWhile fun ch => !isBreak ch)
  return (token, ← c.restOfLine)

/-! Scanning -/

/-- Something that may turn out to be a key. It has to be one when it stands where a key must. -/
structure PossibleKey where
  token : Nat
  required : Bool
  index : Nat
  line : Nat
  column : Nat

structure Scan where
  cursor : Cursor
  tokens : Array Token := #[]
  /-- Tokens that turned out to be keys, and whether each begins a mapping. -/
  keys : List (Nat × Bool) := []
  /-- How many brackets are open. -/
  flow : Nat := 0
  indent : Int := -1
  /-- Indentations around the current one, innermost first. -/
  indents : List Int := []
  keyAllowed : Bool := true
  /-- Possible keys by the number of brackets around them. -/
  possible : Table Nat PossibleKey := []

namespace Scan

def push (s : Scan) (t : Token) : Scan := { s with tokens := s.tokens.push t }

def inFlow (s : Scan) : Bool := s.flow != 0

/-- Blanks, comments and line ends up to the next token. -/
def skipBetween : Nat → Scan → Scan
  | 0, s => s
  | n + 1, s =>
    let c := (s.cursor.skipWhile (· == ' ')).skipComment
    match c.lineBreak? with
    | some (_, c) => skipBetween n { s with cursor := c, keyAllowed := s.keyAllowed || !s.inFlow }
    | none => { s with cursor := c }

/-- Whether a possible key cannot be one any more: a key ends on its line, and within 1024
characters. -/
def isStale (s : Scan) (k : PossibleKey) : Bool :=
  k.line != s.cursor.line || 1024 < s.cursor.index - k.index

def dropStale (s : Scan) : Except Failure Scan :=
  if s.possible.any fun e => s.isStale e.2 && e.2.required then .error malformed
  else .ok { s with possible := s.possible.filter fun e => !s.isStale e.2 }

def dropPossible (s : Scan) : Except Failure Scan :=
  match s.possible.get? s.flow with
  | some k =>
    if k.required then .error malformed
    else .ok { s with possible := s.possible.filter fun e => e.1 != s.flow }
  | none => .ok s

/-- Notes that the next token may be a key. -/
def savePossible (s : Scan) : Except Failure Scan :=
  if s.keyAllowed then do
    let c := s.cursor
    let k : PossibleKey :=
      ⟨s.tokens.size, !s.inFlow && s.indent == c.column, c.index, c.line, c.column⟩
    let s ← s.dropPossible
    return { s with possible := s.possible.put s.flow k }
  else .ok s

/-- Closes the collections that are indented further than a column. -/
def unwindFrom (column : Int) : List Int → Scan → Scan
  | [], s => s
  | outer :: rest, s =>
    if column < s.indent then
      unwindFrom column rest { s.push .blockEnd with indent := outer, indents := rest }
    else s

def unwind (column : Int) (s : Scan) : Scan :=
  if s.inFlow then s else unwindFrom column s.indents s

/-- Opens an indentation, and says whether it is a new one. -/
def indentTo (s : Scan) (column : Int) : Bool × Scan :=
  if s.indent < column then (true, { s with indent := column, indents := s.indent :: s.indents })
  else (false, s)

def take (s : Scan) (n : Nat) (t : Token) : Scan :=
  { s.push t with cursor := s.cursor.skip n }

/-- Something between documents; it ends everything that is open. -/
def boundary (s : Scan) : Except Failure Scan := do
  return { ← (s.unwind (-1)).dropPossible with keyAllowed := false }

def flowStart (s : Scan) (t : Token) : Except Failure Scan := do
  let s ← s.savePossible
  return { s.take 1 t with flow := s.flow + 1, keyAllowed := true }

def flowEnd (s : Scan) (t : Token) : Except Failure Scan := do
  if !s.inFlow then .error malformed
  let s ← s.dropPossible
  return { s.take 1 t with flow := s.flow - 1, keyAllowed := false }

/-- Opens a block collection at the current column if none is open there. -/
def openBlock (s : Scan) (start : Token) : Except Failure Scan :=
  if s.inFlow then .ok s
  else if !s.keyAllowed then .error malformed
  else
    let (new, s) := s.indentTo s.cursor.column
    .ok (if new then s.push start else s)

def entry (s : Scan) : Except Failure Scan := do
  let s ← s.openBlock .sequenceStart
  return { ← s.dropPossible with keyAllowed := true }.take 1 .blockEntry

def explicitKey (s : Scan) : Except Failure Scan := do
  let s ← s.openBlock .mappingStart
  return { ← s.dropPossible with keyAllowed := !s.inFlow }.take 1 .key

/-- A colon: what stands before it on the line was a key, or else it follows an explicit key. -/
def valueSign (s : Scan) : Except Failure Scan := do
  match s.possible.get? s.flow with
  | some k =>
    let s := { s with possible := s.possible.filter fun e => e.1 != s.flow, keyAllowed := false }
    let (new, s) := if s.inFlow then (false, s) else s.indentTo k.column
    return { s with keys := (k.token, new) :: s.keys }.take 1 .value
  | none =>
    let s ← s.openBlock .mappingStart
    return { ← s.dropPossible with keyAllowed := !s.inFlow }.take 1 .value

/-- A token that may be a key, read from the current place. -/
def content (s : Scan) (read : Cursor → Except Failure (Token × Cursor)) : Except Failure Scan := do
  let s ← s.savePossible
  let (t, c) ← read s.cursor
  return { s.push t with cursor := c, keyAllowed := false }

def blockScalar (s : Scan) : Except Failure Scan := do
  let s ← s.dropPossible
  let (text, c) ← block s.indent s.cursor
  return { s.push (.scalar text false) with cursor := c, keyAllowed := true }

def plainScalar (s : Scan) : Except Failure Scan := do
  let s ← s.savePossible
  let (text, c, crossed) := plainFrom s.inFlow (s.indent + 1) s.cursor.rest.length [] [] s.cursor false
  return { s.push (.scalar (String.ofList text) true) with cursor := c, keyAllowed := crossed }

def startsPlain (s : Scan) : Bool :=
  let c := s.cursor.peek
  !(isSpaceOrEnd c || "-?:,[]\x7b\x7d#&*!|>'\"%@\x60".contains c) ||
    (!isSpaceOrEnd (s.cursor.peek 1) && (c == '-' || (!s.inFlow && (c == '?' || c == ':'))))

def step (s : Scan) : Except Failure Scan := do
  let c := s.cursor.peek
  let spaced := isSpaceOrEnd (s.cursor.peek 1)
  let lineStart := s.cursor.column == 0
  let named (make : String → Token) (c : Cursor) : Except Failure (Token × Cursor) := do
    let (name, c) ← anchorName c.step
    return (make name, c)
  if c == '%' && lineStart then
    let s ← s.boundary
    let (t, c) ← directive s.cursor
    return { s.push t with cursor := c }
  else if lineStart && s.cursor.hasMarker '-' then return (← s.boundary).take 3 .documentStart
  else if lineStart && s.cursor.hasMarker '.' then return (← s.boundary).take 3 .documentEnd
  else if c == '[' then s.flowStart .flowSequenceStart
  else if c == '\x7b' then s.flowStart .flowMappingStart
  else if c == ']' then s.flowEnd .flowSequenceEnd
  else if c == '\x7d' then s.flowEnd .flowMappingEnd
  else if c == ',' then return { ← s.dropPossible with keyAllowed := true }.take 1 .flowEntry
  else if c == '-' && spaced then
    if s.inFlow then .error malformed else s.entry
  else if c == '?' && (s.inFlow || spaced) then s.explicitKey
  else if c == ':' && (s.inFlow || spaced) then s.valueSign
  else if c == '*' then s.content (named .alias)
  else if c == '&' then s.content (named .anchor)
  else if c == '!' then s.content tagToken
  else if (c == '|' || c == '>') && !s.inFlow then s.blockScalar
  else if c == '\'' || c == '"' then
    s.content fun c => do
      let (text, c) ← quoted c
      return (.scalar text false, c)
  else if s.startsPlain then s.plainScalar
  else .error malformed

/-- Reads one more token, which may be the end. -/
def advance (s : Scan) : Except Failure Scan := do
  let s ← (skipBetween s.cursor.rest.length s).dropStale
  let s := s.unwind s.cursor.column
  if s.cursor.atEnd then return (← s.boundary).push .streamEnd else s.step

/-- Reads up to `n` tokens, the last being the end, and stops before a fault. -/
def all : Nat → Scan → Scan × Option Failure
  | 0, s => (s, some malformed)
  | n + 1, s =>
    match s.advance with
    | .error f => (s, some f)
    | .ok next => if next.tokens.back? == some .streamEnd then (next, none) else all n next

/-- How many tokens can be told before a fault: those before the first that may still be a key. -/
def told (s : Scan) : Nat :=
  (s.possible.filter fun e => !s.isStale e.2).foldl (fun n e => min n e.2.token) s.tokens.size

/-- Puts the tokens that announce keys before the tokens that turned out to be keys. -/
def woven (keys : List (Nat × Bool)) : Nat → List Token → List Token
  | _, [] => []
  | index, t :: rest =>
    match keys.find? fun k => k.1 == index with
    | some (_, true) => .mappingStart :: .key :: t :: woven keys (index + 1) rest
    | some (_, false) => .key :: t :: woven keys (index + 1) rest
    | none => t :: woven keys (index + 1) rest

end Scan

/-- The tokens of a text, up to the first fault if there is one. A byte order mark at its start is no
token. -/
def tokens (text : List Char) : List Token × Option Failure :=
  if !(text.all isAllowed) then ([], some malformed)
  else
    let c : Cursor := { rest := text }
    let c := if c.peek == '\ufeff' then c.step else c
    let (s, fault) := Scan.all (text.length + 2) { cursor := c }
    let told := if fault.isSome then s.tokens.toList.take s.told else s.tokens.toList
    (Scan.woven s.keys 0 told, fault)

end PageHarvest.Yaml
