import PageHarvest.Failure

/-!
Writing JSON on one line or indented. Only quotes, backslashes and controls are escaped. Values that
JSON has no form for are written as their text; keys of such kinds, long integers and more levels
than the stack has room for are not written.
-/
namespace PageHarvest.Json
variable [Stack]

/-- One character of a string. -/
def escapeChar (c : Char) : List Char :=
  if c == '"' then ['\\', '"']
  else if c == '\\' then ['\\', '\\']
  else if c == '\n' then ['\\', 'n']
  else if c == '\r' then ['\\', 'r']
  else if c == '\t' then ['\\', 't']
  else if c == '\x08' then ['\\', 'b']
  else if c == '\x0c' then ['\\', 'f']
  else if c.toNat < 0x20 then '\\' :: 'u' :: Text.hexDigits 4 c.toNat
  else [c]

def string (s : String) : String :=
  String.ofList ('"' :: s.toList.flatMap escapeChar ++ ['"'])

/-- A number; the infinite ones have words. -/
def float : Binary64 → String
  | .nan => "NaN"
  | .infinite negative => if negative then "-Infinity" else "Infinity"
  | x => x.text

def integer (n : Int) : Except Failure String :=
  if Text.isLong n then .error Cause.longInteger else .ok (toString n)

/-- The string that a key is written as. -/
def keyText : Value → Except Failure String
  | .null => .ok "null"
  | .bool b => .ok (if b then "true" else "false")
  | .int n => integer n
  | .float x => .ok (float x)
  | .text s => .ok s
  | v => .error (Cause.badType ("keys must be str, int, float, bool or None, not " ++ v.kindName))

/-- The text of a value that JSON has no form for. -/
def plainText (v : Value) : Except Failure String :=
  match v.unshown? with
  | some u => .error (Cause.unshown u)
  | none => .ok v.plain

/-- How a collection is laid out: the text before each item, between items and at the end. -/
structure Layout where
  lead : String
  separator : String
  close : String

def Layout.line : Layout := ⟨"", ", ", ""⟩

/-- One item a line, `depth` levels of two blanks deep. -/
def Layout.indented (depth : Nat) : Layout :=
  let pad (n : Nat) := "\n" ++ String.ofList (List.replicate (2 * n) ' ')
  ⟨pad (depth + 1), "," ++ pad (depth + 1), pad depth⟩

/-- A collection between brackets; an empty one has nothing in between. -/
def collection (l : Layout) (left right : String) (items : List String) : String :=
  if items.isEmpty then left ++ right
  else left ++ l.lead ++ l.separator.intercalate items ++ l.close ++ right

/-- A collection at a depth is within the room on the stack. -/
def enter (depth : Nat) : Except Failure Unit :=
  if depth < Stack.written then .ok () else .error (Cause.tooDeep " while encoding a JSON object")

mutual

/-- Writes a value at a depth with the layout of that depth. -/
def write (layout : Nat → Layout) (depth : Nat) : Value → Except Failure String
  | .null => .ok "null"
  | .bool b => .ok (if b then "true" else "false")
  | .int n => integer n
  | .float x => .ok (float x)
  | .text s => .ok (string s)
  | .list items => do
    enter depth
    return collection (layout depth) "[" "]" (← writeItems layout (depth + 1) items)
  | .tuple items => do
    enter depth
    return collection (layout depth) "[" "]" (← writeItems layout (depth + 1) items)
  | .map entries => do
    enter depth
    return collection (layout depth) "\x7b" "\x7d" (← writeEntries layout (depth + 1) entries)
  | v => string <$> plainText v

def writeItems (layout : Nat → Layout) (depth : Nat) : List Value → Except Failure (List String)
  | [] => .ok []
  | v :: rest => do
    let first ← write layout depth v
    return first :: (← writeItems layout depth rest)

def writeEntries (layout : Nat → Layout) (depth : Nat) :
    List (Value × Value) → Except Failure (List String)
  | [] => .ok []
  | (k, v) :: rest => do
    let key ← keyText k
    let first ← write layout depth v
    return (string key ++ ": " ++ first) :: (← writeEntries layout depth rest)

end

def line (v : Value) : Except Failure String :=
  write (fun _ => Layout.line) 0 v

def indented (v : Value) : Except Failure String :=
  write Layout.indented 0 v

end PageHarvest.Json
