import PageHarvest.Data.Value
import PageHarvest.Number.Decimal

/-!
What plain texts stand for: null, truth values, integers in five notations, numbers with a point, dates
and moments. Everything else is a text.
-/
namespace PageHarvest.Yaml

/-- What a plain text is taken for. -/
inductive PlainKind where
  | bool
  | float
  | int
  | merge
  | null
  | timestamp
  | defaultValue
  | text
  deriving Repr, DecidableEq

/-- Text without one sign in front of it. -/
def unsigned : List Char → List Char
  | '+' :: rest => rest
  | '-' :: rest => rest
  | cs => cs

def isDigitOrBar (c : Char) : Bool := c.isDigit || c == '_'

def colonParts : List Char → List (List Char)
  | [] => [[]]
  | ':' :: rest => [] :: colonParts rest
  | c :: rest =>
    match colonParts rest with
    | p :: ps => (c :: p) :: ps
    | [] => [[c]]

/-- A number below sixty in one or two digits. -/
def isSixtieth : List Char → Bool
  | [d] => d.isDigit
  | [t, d] => '0' ≤ t && t ≤ '5' && d.isDigit
  | _ => false

/-- A number in base sixty: a first part and at least one more. -/
def isSexagesimal (first : Char → Bool) (cs : List Char) : Bool :=
  match colonParts cs with
  | (c :: rest) :: more => !more.isEmpty && first c && rest.all isDigitOrBar && more.all isSixtieth
  | _ => false

def isNonZeroDigit (c : Char) : Bool := '1' ≤ c && c ≤ '9'

def isInt (cs : List Char) : Bool :=
  let some (p : Char → Bool) (ds : List Char) : Bool := !ds.isEmpty && ds.all p
  match unsigned cs with
  | '0' :: 'b' :: ds => some (fun c => c == '0' || c == '1' || c == '_') ds
  | '0' :: 'x' :: ds =>
    some (fun c => isDigitOrBar c || ('a' ≤ c && c ≤ 'f') || ('A' ≤ c && c ≤ 'F')) ds
  | '0' :: ds => ds.all fun c => ('0' ≤ c && c ≤ '7') || c == '_'
  | c :: ds => (isNonZeroDigit c && ds.all isDigitOrBar) || isSexagesimal isNonZeroDigit (c :: ds)
  | [] => false

/-- An exponent with its sign, or nothing. -/
def isExponent : List Char → Bool
  | [] => true
  | e :: s :: ds =>
    (e == 'e' || e == 'E') && (s == '+' || s == '-') && !ds.isEmpty && ds.all Char.isDigit
  | _ => false

def isFloat (cs : List Char) : Bool :=
  let whole := (unsigned cs).takeWhile fun c => c != '.'
  match (unsigned cs).dropWhile fun c => c != '.' with
  | [] => false
  | _ :: part =>
    let exponent := part.dropWhile isDigitOrBar
    match whole with
    | [] =>
      [".inf", ".Inf", ".INF"].contains (String.ofList (unsigned cs)) ||
        [".nan", ".NaN", ".NAN"].contains (String.ofList cs) ||
        (cs.head? == some '.' && (part.head?.any Char.isDigit) && isExponent exponent)
    | c :: rest =>
      (c.isDigit && rest.all isDigitOrBar && isExponent exponent) ||
        (isSexagesimal Char.isDigit whole && part.all isDigitOrBar)

/-! Dates and moments -/

/-- Between `least` and `most` digits as a number, and what follows them. -/
def digitsBetween? (least most : Nat) (cs : List Char) : Option (Nat × List Char) :=
  let ds := (cs.take most).takeWhile Char.isDigit
  if ds.length < least then none else some (Binary64.digitsToNat ds, cs.drop ds.length)

def after? (c : Char) : List Char → Option (List Char)
  | d :: rest => if d == c then some rest else none
  | [] => none

def dropGaps (cs : List Char) : List Char := cs.dropWhile fun c => c == ' ' || c == '\t'

/-- What follows the sign between a date and a time: one letter, or blanks. -/
def afterDate? : List Char → Option (List Char)
  | 'T' :: rest => some rest
  | 't' :: rest => some rest
  | cs => if (dropGaps cs).length < cs.length then some (dropGaps cs) else none

/-- Digits of a fraction as microseconds; further digits are dropped. -/
def microseconds (ds : List Char) : Nat :=
  let kept := ds.take 6
  Binary64.digitsToNat (kept ++ List.replicate (6 - kept.length) '0')

/-- An offset in seconds, or none, up to the end. -/
def offset? (cs : List Char) : Option (Option Int) :=
  match cs, dropGaps cs with
  | [], _ => some none
  | _, ['Z'] => some (some 0)
  | _, s :: rest => do
    if s != '+' && s != '-' then none
    else
      let (hours, rest) ← digitsBetween? 1 2 rest
      let minutes ← match rest with
        | [] => some 0
        | ':' :: rest => match digitsBetween? 2 2 rest with
          | some (m, []) => some m
          | _ => none
        | _ => none
      let seconds : Int := hours * 3600 + minutes * 60
      return some (if s == '-' then -seconds else seconds)
  | _, _ => none

/-- A date, with a time of day or without. -/
inductive Timestamp where
  | date (d : Date)
  | moment (t : Moment)

def timestamp? (cs : List Char) : Option Timestamp := do
  let (year, rest) ← digitsBetween? 4 4 cs
  let (month, rest) ← digitsBetween? 1 2 (← after? '-' rest)
  let (day, rest) ← digitsBetween? 1 2 (← after? '-' rest)
  let date : Date := ⟨year, month, day⟩
  if rest.isEmpty then return .date date
  let (hour, rest) ← digitsBetween? 1 2 (← afterDate? rest)
  let (minute, rest) ← digitsBetween? 2 2 (← after? ':' rest)
  let (second, rest) ← digitsBetween? 2 2 (← after? ':' rest)
  let (micro, rest) := match rest with
    | '.' :: rest => (microseconds (rest.takeWhile Char.isDigit), rest.dropWhile Char.isDigit)
    | rest => (0, rest)
  return .moment ⟨date, hour, minute, second, micro, ← offset? rest⟩

/-- A date alone counts only with two digits for month and day. -/
def isTimestamp (cs : List Char) : Bool :=
  match timestamp? cs with
  | some (.date _) => cs.length == 10
  | some (.moment _) => true
  | none => false

def boolWords : List String := [
  "yes", "Yes", "YES", "no", "No", "NO", "true", "True", "TRUE", "false", "False", "FALSE", "on", "On",
  "ON", "off", "Off", "OFF"]

def plainKind (s : String) : PlainKind :=
  if boolWords.contains s then .bool
  else if isFloat s.toList then .float
  else if isInt s.toList then .int
  else if s == "<<" then .merge
  else if ["", "~", "null", "Null", "NULL"].contains s then .null
  else if isTimestamp s.toList then .timestamp
  else if s == "=" then .defaultValue
  else .text

end PageHarvest.Yaml
