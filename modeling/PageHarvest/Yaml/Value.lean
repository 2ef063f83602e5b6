import PageHarvest.Text.Base64
import PageHarvest.Text.Case
import PageHarvest.Text.Digit
import PageHarvest.Text.Quoted
import PageHarvest.Yaml.Node
import PageHarvest.Yaml.Plain

/-!
The value of a YAML node. Tags choose what a node is read as; a mapping takes in the entries of those
that it merges, which its own entries override.
-/
namespace PageHarvest.Yaml

/-- The name of a standard tag; a tag of another kind has none. -/
def standardTag? (tag : String) : Option String :=
  if "tag:yaml.org,2002:".toList.isPrefixOf tag.toList then
    some (String.ofList (tag.toList.drop "tag:yaml.org,2002:".length))
  else none

/-! Scalars -/

/-- The failure of digits that are none in a base. -/
def badDigits (base : Nat) (cs : List Char) : Failure :=
  Cause.badValue ("invalid literal for int() with base " ++ toString base ++ ": " ++
    Text.quoted (String.ofList cs))

/-- Digits of a base up to sixteen as a number. -/
def inBase (base : Nat) (cs : List Char) : Except Failure Int :=
  let read := cs.foldl (fun n c => do
    let d ← hexValue? c
    if d < base then return (← n) * base + d else none) (some 0)
  match if cs.isEmpty then none else read with
  | some n => .ok n
  | none => .error (badDigits base cs)

def decimal (cs : List Char) : Except Failure Int :=
  match Text.integer? (String.ofList cs) with
  | some n => .ok n
  | none =>
    let digits := Text.leadingDigits cs
    if Text.mostDigits < digits then .error (Cause.badValue (Text.tooManyDigits digits))
    else .error (badDigits 10 cs)

/-- The failure of a number without any character. -/
def noCharacter : Failure := Cause.outOfRange "string"

/-- Sign and rest of a number, bars left out. -/
def signed (s : String) : Except Failure (Bool × List Char) :=
  let cs := s.toList.filter (· != '_')
  match cs with
  | [] => .error noCharacter
  | c :: _ => .ok (c == '-', unsigned cs)

def intOf (s : String) : Except Failure Int := do
  let (negative, cs) ← signed s
  let n ← match cs with
    | [] => .error noCharacter
    | '0' :: 'b' :: ds => inBase 2 ds
    | '0' :: 'x' :: ds => inBase 16 ds
    | ['0'] => .ok 0
    | '0' :: ds => inBase 8 ('0' :: ds)
    | cs => do
      let parts ← (colonParts cs).mapM decimal
      pure (parts.foldl (fun n p => n * 60 + p) 0)
  return if negative then -n else n

def badNumber (cs : List Char) : Failure :=
  Cause.badValue ("could not convert string to float: " ++ Text.quoted (String.ofList cs))

/-- A number with point and exponent, or a word for one that is not finite. -/
def binaryOf (cs : List Char) : Except Failure Binary64 :=
  let kept := Text.trimBy Text.isNumberGap cs
  let negative := kept.head? == some '-'
  let body := unsigned kept
  let whole := body.takeWhile Char.isDigit
  let rest := body.dropWhile Char.isDigit
  let (part, rest) := match rest with
    | '.' :: rest => (rest.takeWhile Char.isDigit, rest.dropWhile Char.isDigit)
    | rest => ([], rest)
  let exponent? : Option Int := match rest with
    | [] => some 0
    | e :: rest =>
      let ds := unsigned rest
      if (e == 'e' || e == 'E') && !ds.isEmpty && ds.all Char.isDigit then
        let n : Int := Binary64.digitsToNat ds
        some (if rest.head? == some '-' then -n else n)
      else none
  if ["inf", "infinity"].contains (Text.asciiLower (String.ofList body)) then .ok (.infinite negative)
  else if Text.asciiLower (String.ofList body) == "nan" then .ok .nan
  else match exponent? with
    | some e =>
      if whole.isEmpty && part.isEmpty then .error (badNumber cs)
      else .ok (Binary64.ofDecimal negative (whole ++ part) (e - part.length))
    | none => .error (badNumber cs)

/-- A number turned round. -/
def negated : Binary64 → Binary64
  | .nan => .nan
  | .infinite negative => .infinite (!negative)
  | .finite negative m e => .finite (!negative) m e

/-- The failure of a power of sixty that is too large to be rounded. -/
def hugePower : Failure := Cause.overflow "int too large to convert to float"

/-- A sum of sixtieths from the last part on, rounded at every step. The part at hand counts `power`
times. -/
def sexagesimal (sum : Binary64) (power : Nat) : List Binary64 → Except Failure Binary64
  | [] => .ok sum
  | x :: rest =>
    match (Binary64.ofRat power).toRat? with
    | none => .error hugePower
    | some factor => sexagesimal (sum.add (x.scale factor)) (power * 60) rest

def floatOf (s : String) : Except Failure Binary64 := do
  let (negative, cs) ← signed (Text.lower s)
  let x ←
    if cs == ".inf".toList then pure (.infinite false)
    else if cs == ".nan".toList then return .nan
    else if cs.contains ':' then do
      let parts ← (colonParts cs).mapM binaryOf
      sexagesimal (.finite false 0 (-1074)) 1 parts.reverse
    else binaryOf cs
  return if negative then negated x else x

/-- The number of seconds in a day. -/
def daySeconds : Int := 86400

/-- The failure of an offset of a day or more. -/
def wideOffset (seconds : Int) : Failure :=
  let days := seconds.fdiv daySeconds
  let rest := seconds.fmod daySeconds
  Cause.badValue ("offset must be a timedelta strictly between -timedelta(hours=24) and " ++
    "timedelta(hours=24), not datetime.timedelta(days=" ++ toString days ++
    (if rest == 0 then "" else ", seconds=" ++ toString rest) ++ ").")

def timestampOf (s : String) : Except Failure Value :=
  match timestamp? s.toList with
  | none => .error Cause.noOperation
  | some (.date d) =>
    match d.fault? with
    | some m => .error (Cause.badValue m)
    | none => .ok (.date d)
  | some (.moment t) =>
    let seconds := t.offset.getD 0
    if daySeconds ≤ seconds.natAbs then .error (wideOffset seconds)
    else match t.fault? with
      | some m => .error (Cause.badValue m)
      | none => .ok (.moment t)

def boolOf (s : String) : Except Failure Value :=
  let word := Text.lower s
  if ["yes", "true", "on"].contains word then .ok (.bool true)
  else if ["no", "false", "off"].contains word then .ok (.bool false)
  else .error (Cause.outside (.mk "KeyError") (Text.quoted word))

def bytesOf (s : String) : Except Failure Value :=
  match if s.toList.all fun c => c.toNat < 128 then Text.Base64.decode? s.toList else none with
  | some bs => .ok (.bytes bs)
  | none => .error malformed

def scalarOf (name s : String) : Except Failure Value :=
  match name with
  | "null" => .ok .null
  | "bool" => boolOf s
  | "int" => Value.int <$> intOf s
  | "float" => Value.float <$> floatOf s
  | "binary" => bytesOf s
  | "timestamp" => timestampOf s
  | "str" => .ok (.text s)
  | _ => .error malformed

/-- The name of the standard tag that a plain text has. -/
def PlainKind.tagName : PlainKind → String
  | bool => "bool"
  | float => "float"
  | int => "int"
  | merge => "merge"
  | null => "null"
  | timestamp => "timestamp"
  | defaultValue => "value"
  | text => "str"

/-- The name of the standard tag of a scalar; one with a tag of another kind has none. -/
def scalarTag? (tag : Option String) (plain : Bool) (s : String) : Option String :=
  match tag with
  | some t => standardTag? t
  | none => some (if plain then (plainKind s).tagName else "str")

/-- The name of the standard tag of a collection. -/
def collectionTag? (tag : Option String) (usual : String) : Option String :=
  match tag with
  | none => some usual
  | some t => if t == Parser.plainTag then some usual else standardTag? t

/-- Whether a key asks for other mappings to be merged in. -/
def Node.isMerge : Node → Bool
  | .scalar tag plain s => scalarTag? tag plain s == some "merge"
  | _ => false

/-! Collections -/

abbrev Entries := List (Value × Value)

/-- A mapping from entries put one after another. Only some values can be keys. -/
def mappingOf (es : Entries) : Except Failure Mapping :=
  if es.all fun e => e.1.isKey then .ok (es.foldl (fun m e => Mapping.put e.1 e.2 m) [])
  else .error malformed

mutual

def Node.value : Node → Except Failure Value
  | .scalar tag plain s =>
    match scalarTag? tag plain s with
    | some name => scalarOf name s
    | none => .error malformed
  | .sequence tag items =>
    match collectionTag? tag "seq" with
    | some "seq" => do return .list (← valuesOf items)
    | some "omap" | some "pairs" => do return .list (← pairsOf items)
    | _ => .error malformed
  | .mapping tag entries =>
    match collectionTag? tag "map" with
    | some "map" => do
      let (merged, own) ← entriesOf entries
      return .map (← mappingOf (merged ++ own))
    | some "set" => do
      let (merged, own) ← entriesOf entries
      return .set ((← mappingOf (merged ++ own)).map (·.1))
    | _ => .error malformed
  | .again sequence => .ok (.object (if sequence then "[...]" else "\x7b...\x7d"))

def valuesOf : List Node → Except Failure (List Value)
  | [] => .ok []
  | n :: rest => do return (← n.value) :: (← valuesOf rest)

/-- Pairs written as mappings of one entry. -/
def pairsOf : List Node → Except Failure (List Value)
  | [] => .ok []
  | .mapping _ [(k, v)] :: rest => do return .tuple [← k.value, ← v.value] :: (← pairsOf rest)
  | _ => .error malformed

/-- The entries that a mapping merges in, and its own. -/
def entriesOf : List (Node × Node) → Except Failure (Entries × Entries)
  | [] => .ok ([], [])
  | (k, v) :: rest => do
    if k.isMerge then
      let here ← mergedOf v
      let (merged, own) ← entriesOf rest
      return (here ++ merged, own)
    else
      let key ← k.keyValue
      let value ← v.value
      let (merged, own) ← entriesOf rest
      return (merged, (key, value) :: own)

/-- The value of a key; the sign for a default value is a text there. -/
def Node.keyValue : Node → Except Failure Value
  | .scalar tag plain s =>
    match scalarTag? tag plain s with
    | some "value" => .ok (.text s)
    | some name => scalarOf name s
    | none => .error malformed
  | .sequence _ _ => .error malformed
  | .mapping _ _ => .error malformed
  | .again _ => .error malformed

/-- The entries of a mapping, or of several of which the first counts most. -/
def mergedOf : Node → Except Failure Entries
  | .mapping _ entries => do
    let (merged, own) ← entriesOf entries
    return merged ++ own
  | .sequence _ items => mergedAll items
  | .scalar _ _ _ => .error malformed
  | .again sequence => if sequence then .error malformed else .ok []

/-- The entries of several mappings, those of the last one first. -/
def mergedAll : List Node → Except Failure Entries
  | [] => .ok []
  | .mapping _ entries :: rest => do
    let (merged, own) ← entriesOf entries
    return (← mergedAll rest) ++ merged ++ own
  | _ => .error malformed

end

/-- The value of a text; null for a text without a document. -/
def read [Stack] (text : List Char) : Except Failure Value := do
  match ← Node.ofText text with
  | none => return .null
  | some n => n.value

end PageHarvest.Yaml
