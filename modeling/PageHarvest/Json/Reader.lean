import PageHarvest.Failure
import PageHarvest.Number.Decimal

/-!
Reading JSON. The words for numbers that are not finite are accepted, a key given twice keeps its
first place and its last value, and a fault says what was expected and at which character. Half of a
surrogate pair that is written as a number stands for no character, and is read as U+FFFD.
-/
namespace PageHarvest.Json

/-- What is wrong with a text. -/
inductive Fault where
  /-- Something else was expected at a character, counted from zero. -/
  | malformed (reason : String) (position : Nat)
  /-- An integer has too many digits. -/
  | longInteger (digits : Nat)
  /-- There are more levels than the stack has room for, where such a collection begins. -/
  | tooDeep (collection : String)
  deriving Repr, DecidableEq

/-- Line and column of a position, both counted from one. -/
def lineColumn (cs : List Char) (position : Nat) : Nat × Nat :=
  (cs.take position).foldl (fun (line, column) c => if c == '\n' then (line + 1, 1) else (line, column + 1))
    (1, 1)

/-- The failure where a collection begins that there is no room for. -/
def Fault.deep (collection : String) : Cause :=
  .tooDeep (" while decoding a JSON " ++ collection ++ " from a unicode string")

def Fault.message (cs : List Char) : Fault → String
  | malformed reason position =>
    let (line, column) := lineColumn cs position
    reason ++ ": line " ++ toString line ++ " column " ++ toString column ++
      " (char " ++ toString position ++ ")"
  | longInteger digits => Text.tooManyDigits digits
  | tooDeep collection => (deep collection).message

/-- What a reader of the text fails with. -/
def Fault.cause (cs : List Char) : Fault → Cause
  | tooDeep collection => deep collection
  | fault => .badValue (fault.message cs)

/-- Whether the text is no JSON at all. -/
def Fault.isMalformed : Fault → Bool
  | malformed .. => true
  | longInteger _ | tooDeep _ => false

/-- What is left to read, and where it starts. -/
structure Cursor where
  rest : List Char
  position : Nat

def Cursor.skip (c : Cursor) (n : Nat) : Cursor :=
  ⟨c.rest.drop n, c.position + n⟩

def isSpace (c : Char) : Bool :=
  c == ' ' || c == '\t' || c == '\n' || c == '\r'

def Cursor.skipSpace (c : Cursor) : Cursor :=
  let rest := c.rest.dropWhile isSpace
  ⟨rest, c.position + (c.rest.length - rest.length)⟩

def hexValue? (c : Char) : Option Nat :=
  if c.isDigit then some (c.toNat - 48)
  else if 'a' ≤ c && c ≤ 'f' then some (c.toNat - 87)
  else if 'A' ≤ c && c ≤ 'F' then some (c.toNat - 55)
  else none

/-- The number of exactly four hexadecimal digits. -/
def hex4? : List Char → Option Nat
  | [a, b, c, d] => do
    return (((← hexValue? a) * 16 + (← hexValue? b)) * 16 + (← hexValue? c)) * 16 + (← hexValue? d)
  | _ => none

/-- What a backslash and one letter stand for. -/
def simpleEscape? : Char → Option Char
  | '"' => some '"'
  | '\\' => some '\\'
  | '/' => some '/'
  | 'b' => some '\x08'
  | 'f' => some '\x0c'
  | 'n' => some '\n'
  | 'r' => some '\r'
  | 't' => some '\t'
  | _ => none

/-- One character from an escape by number, and how many characters follow the `u`. A pair of
surrogates makes one character. -/
def numberEscape (high : Nat) (after : List Char) : Except Unit (Char × Nat) :=
  match after with
  | '\\' :: 'u' :: more =>
    if 0xd800 ≤ high && high < 0xdc00 && 4 < more.length then
      match hex4? (more.take 4) with
      | none => .error ()
      | some low =>
        if 0xdc00 ≤ low && low < 0xe000 then
          .ok (Char.ofNat (0x10000 + (high - 0xd800) * 0x400 + (low - 0xdc00)), 10)
        else .ok (Char.ofNat 0xfffd, 4)
    else .ok (if 0xd800 ≤ high && high < 0xe000 then Char.ofNat 0xfffd else Char.ofNat high, 4)
  | _ => .ok (if 0xd800 ≤ high && high < 0xe000 then Char.ofNat 0xfffd else Char.ofNat high, 4)

/-- Reads a string whose opening quote stood at `start`; `skip` characters belong to an escape that
is already read, and `done` holds what has been read, last first. -/
def stringFrom (start position skip : Nat) (done : List Char) :
    List Char → Except Fault (String × Cursor)
  | [] => .error (.malformed "Unterminated string starting at" start)
  | c :: rest =>
    match skip with
    | k + 1 => stringFrom start (position + 1) k done rest
    | 0 =>
      if c == '"' then .ok (String.ofList done.reverse, ⟨rest, position + 1⟩)
      else if c.toNat < 0x20 then .error (.malformed "Invalid control character at" position)
      else if c == '\\' then
        match rest with
        | [] => .error (.malformed "Unterminated string starting at" start)
        | 'u' :: more =>
          if more.length ≤ 4 then .error (.malformed "Invalid \\uXXXX escape" (position + 1))
          else match hex4? (more.take 4) with
            | none => .error (.malformed "Invalid \\uXXXX escape" (position + 1))
            | some n =>
              match numberEscape n (more.drop 4) with
              | .error _ => .error (.malformed "Invalid \\uXXXX escape" (position + 7))
              | .ok (d, taken) => stringFrom start (position + 1) (1 + taken) (d :: done) rest
        | e :: _ =>
          match simpleEscape? e with
          | none => .error (.malformed "Invalid \\escape" position)
          | some d => stringFrom start (position + 1) 1 (d :: done) rest
      else stringFrom start (position + 1) 0 (c :: done) rest

def digitRun (cs : List Char) : List Char :=
  cs.takeWhile Char.isDigit

/-- The digits before the point: one zero, or a run that does not start with zero. -/
def wholePart : List Char → List Char
  | '0' :: _ => ['0']
  | cs => digitRun cs

/-- The digits after a point; a point without digits is not part of the number. -/
def fractionPart : List Char → List Char
  | '.' :: cs => digitRun cs
  | _ => []

/-- The exponent with the number of characters it takes; an `e` without digits is not part of the
number. -/
def exponentPart : List Char → Int × Nat
  | e :: cs =>
    if e == 'e' || e == 'E' then
      let (sign, ds) : Int × List Char := match cs with
        | '-' :: ds => (-1, digitRun ds)
        | '+' :: ds => (1, digitRun ds)
        | ds => (1, digitRun ds)
      let signed := match cs with
        | '-' :: _ | '+' :: _ => 1
        | _ => 0
      if ds.isEmpty then (0, 0) else (sign * Binary64.digitsToNat ds, 1 + signed + ds.length)
    else (0, 0)
  | [] => (0, 0)

def number (c : Cursor) : Except Fault (Value × Cursor) :=
  let negative := c.rest.head? == some '-'
  let body := if negative then c.rest.drop 1 else c.rest
  let whole := wholePart body
  if whole.isEmpty then .error (.malformed "Expecting value" c.position)
  else
    let afterWhole := body.drop whole.length
    let fraction := fractionPart afterWhole
    let fractionLength := if fraction.isEmpty then 0 else fraction.length + 1
    let (exponent, exponentLength) := exponentPart (afterWhole.drop fractionLength)
    let taken := (if negative then 1 else 0) + whole.length + fractionLength + exponentLength
    if fractionLength != 0 || exponentLength != 0 then
      .ok (.float (Binary64.ofDecimal negative (whole ++ fraction) (exponent - fraction.length)),
        c.skip taken)
    else if Text.mostDigits < whole.length then .error (.longInteger whole.length)
    else
      let n := Binary64.digitsToNat whole
      .ok (.int (if negative then -(n : Int) else n), c.skip taken)

/-- The words that stand for values. -/
def words : List (String × Value) := [
  ("null", .null), ("true", .bool true), ("false", .bool false), ("NaN", .float .nan),
  ("Infinity", .float (.infinite false)), ("-Infinity", .float (.infinite true))]

def scalar (c : Cursor) : Except Fault (Value × Cursor) :=
  match words.find? fun w => w.1.toList.isPrefixOf c.rest with
  | some (w, v) => .ok (v, c.skip w.length)
  | none => number c

mutual

/-- Reads a value that starts at the cursor, with room for so many levels. The bound is above the
length of the text. -/
def value (bound room : Nat) (c : Cursor) : Except Fault (Value × Cursor) :=
  match bound with
  | 0 => .error (.malformed "Expecting value" c.position)
  | bound + 1 =>
    match c.rest with
    | '"' :: rest => do
      let (s, c) ← stringFrom c.position (c.position + 1) 0 [] rest
      return (.text s, c)
    | '\x7b' :: _ =>
      match room with
      | 0 => .error (.tooDeep "object")
      | room + 1 =>
        let c := (c.skip 1).skipSpace
        match c.rest with
        | '\x7d' :: _ => .ok (.map [], c.skip 1)
        | _ => entries bound room [] c
    | '[' :: _ =>
      match room with
      | 0 => .error (.tooDeep "array")
      | room + 1 =>
        let c := (c.skip 1).skipSpace
        match c.rest with
        | ']' :: _ => .ok (.list [], c.skip 1)
        | _ => items bound room [] c
    | _ => scalar c

/-- Reads the rest of a list, from an item on, with room for the items; `done` holds those before it,
last first. -/
def items (bound room : Nat) (done : List Value) (c : Cursor) : Except Fault (Value × Cursor) :=
  match bound with
  | 0 => .error (.malformed "Expecting value" c.position)
  | bound + 1 => do
    let (v, c) ← value bound room c
    let c := c.skipSpace
    match c.rest with
    | ']' :: _ => return (.list (v :: done).reverse, c.skip 1)
    | ',' :: _ => items bound room (v :: done) (c.skip 1).skipSpace
    | _ => throw (.malformed "Expecting ',' delimiter" c.position)

/-- Reads the rest of a mapping, from a key on, with room for the values. -/
def entries (bound room : Nat) (done : Mapping) (c : Cursor) : Except Fault (Value × Cursor) :=
  match bound with
  | 0 => .error (.malformed "Expecting value" c.position)
  | bound + 1 =>
    match c.rest with
    | '"' :: rest => do
      let (k, c) ← stringFrom c.position (c.position + 1) 0 [] rest
      let c := c.skipSpace
      match c.rest with
      | ':' :: _ =>
        let (v, c) ← value bound room (c.skip 1).skipSpace
        let done := Mapping.put (.text k) v done
        let c := c.skipSpace
        match c.rest with
        | '\x7d' :: _ => return (.map done, c.skip 1)
        | ',' :: _ => entries bound room done (c.skip 1).skipSpace
        | _ => throw (.malformed "Expecting ',' delimiter" c.position)
      | _ => throw (.malformed "Expecting ':' delimiter" c.position)
    | _ => .error (.malformed "Expecting property name enclosed in double quotes" c.position)

end

def read [Stack] (cs : List Char) : Except Fault Value :=
  match cs with
  | '\ufeff' :: _ => .error (.malformed "Unexpected UTF-8 BOM (decode using utf-8-sig)" 0)
  | _ => do
    let (v, c) ← value (2 * cs.length + 2) Stack.json (Cursor.skipSpace ⟨cs, 0⟩)
    let c := c.skipSpace
    if c.rest.isEmpty then return v else throw (.malformed "Extra data" c.position)

end PageHarvest.Json
