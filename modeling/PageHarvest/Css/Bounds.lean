import PageHarvest.Data.Calendar
import PageHarvest.Data.Value
import PageHarvest.Number.Decimal

/-!
Values of inputs that bounds can be given for: numbers, dates and times. What is not written as the
type of its input asks for is no value.
-/
namespace PageHarvest.Css
open Calendar

/-- The parts of a date or a time are compared in turn. -/
inductive InputValue where
  | number (x : Binary64)
  | parts (ns : List Nat)

def InputValue.lt : InputValue → InputValue → Bool
  | number x, number y => x.lt y
  | parts a, parts b => a < b
  | _, _ => false

/-- Whether nothing is left, or one line feed. -/
def isLineRest (cs : List Char) : Bool :=
  cs.isEmpty || cs == ['\n']

/-- What dates and times are written in: years of four digits or more, pairs of digits, and signs. -/
inductive Piece where
  | year
  | pair
  | sign (c : Char)

/-- The numbers of a text that is written in the pieces. -/
def numbers? : List Piece → List Char → Option (List Nat)
  | [], cs => if isLineRest cs then some [] else none
  | .sign c :: rest, d :: cs => if c == d then numbers? rest cs else none
  | .pair :: rest, a :: b :: cs =>
    if a.isDigit && b.isDigit then (numbers? rest cs).map (Binary64.digitsToNat [a, b] :: ·) else none
  | .year :: rest, cs =>
    let ds := cs.takeWhile Char.isDigit
    if ds.length < 4 then none
    else (numbers? rest (cs.drop ds.length)).map (Binary64.digitsToNat ds :: ·)
  | _, _ => none

/-- The day of the week on which a year ends, counted from Sunday. -/
def lastWeekday (year : Nat) : Nat :=
  (year + year / 4 - year / 100 + year / 400) % 7

/-- The weeks that a year is given. One that ends in the first week of the next has a week more than
it has in the calendar. -/
def weekCount (year : Nat) : Nat :=
  let last := lastWeekday year
  if (1 ≤ last && last ≤ 4) || (last == 5 && isLeap year) then 53 else 52

def isMonth : List Nat → Bool
  | [y, m] => 1 ≤ y && 1 ≤ m && m ≤ 12
  | _ => false

def isWeek : List Nat → Bool
  | [y, w] => 1 ≤ y && 1 ≤ w && w ≤ weekCount y
  | _ => false

def isTime : List Nat → Bool
  | [h, m] => h ≤ 23 && m ≤ 59
  | _ => false

def isDay : List Nat → Bool
  | [y, m, d] => isMonth [y, m] && 1 ≤ d && d ≤ monthLength y m
  | _ => false

def isLocalTime : List Nat → Bool
  | y :: m :: d :: time => isDay [y, m, d] && isTime time
  | _ => false

def monthPieces : List Piece := [.year, .sign '-', .pair]

def dayPieces : List Piece := monthPieces ++ [.sign '-', .pair]

def timePieces : List Piece := [.pair, .sign ':', .pair]

/-- The types of dates and times, each with what it is written in and the numbers that it can have. -/
def datedTypes : Table String (List Piece × (List Nat → Bool)) := [
  ("date", dayPieces, isDay),
  ("month", monthPieces, isMonth),
  ("week", [.year, .sign '-', .sign 'W', .pair], isWeek),
  ("time", timePieces, isTime),
  ("datetime-local", dayPieces ++ .sign 'T' :: timePieces, isLocalTime)]

def numberTypes : List String := ["number", "range"]

/-- A number with digits before a point, after it, or both. -/
def decimal? (cs : List Char) : Option Binary64 :=
  let (negative, body) := match cs with
    | '-' :: rest => (true, rest)
    | _ => (false, cs)
  let whole := body.takeWhile Char.isDigit
  match body.drop whole.length with
  | '.' :: rest =>
    let part := rest.takeWhile Char.isDigit
    if part.isEmpty || !isLineRest (rest.drop part.length) then none
    else some (Binary64.ofDecimal negative (whole ++ part) (-part.length))
  | rest => if whole.isEmpty || !isLineRest rest then none else some (Binary64.ofDecimal negative whole 0)

/-- The value that a text has for an input of a type. -/
def inputValue? (type text : String) : Option InputValue :=
  if numberTypes.contains type then (decimal? text.toList).map .number
  else do
    let (pieces, valid) ← datedTypes.get? type
    let ns ← numbers? pieces text.toList
    if valid ns then some (.parts ns) else none

/-- Whether a value is beyond a bound. Times of day come round, so that bounds in reverse are those of a
range over midnight. -/
def isBeyond (type : String) (least most : Option InputValue) (v : InputValue) : Bool :=
  let early := least.any v.lt
  let late := most.any (·.lt v)
  let reversed := type == "time" && least.any fun a => most.any (·.lt a)
  if reversed then early && late else early || late

end PageHarvest.Css
