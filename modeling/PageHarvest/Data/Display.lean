import PageHarvest.Data.Stack
import PageHarvest.Data.Value
import PageHarvest.Number.Display
import PageHarvest.Text.Digit
import PageHarvest.Text.Quoted

/-!
The text of values in messages. A value inside another is shown in full, with quotes around texts; a
text that stands alone is itself.
-/
namespace PageHarvest

/-- A span of seconds, split into days and the seconds that remain. -/
def spanShown (seconds : Int) : String :=
  let days := seconds.fdiv 86400
  let rest := seconds - days * 86400
  let part (name : String) (n : Int) := if n == 0 then [] else [name ++ "=" ++ toString n]
  let parts := part "days" days ++ part "seconds" rest
  "datetime.timedelta(" ++ (if parts.isEmpty then "0" else ", ".intercalate parts) ++ ")"

/-- A zone by its offset; no offset at all from universal time has a name. -/
def zoneShown (offset : Int) : String :=
  if offset == 0 then "datetime.timezone.utc" else "datetime.timezone(" ++ spanShown offset ++ ")"

def Date.parts (d : Date) : List Nat :=
  [d.year, d.month, d.day]

def Date.shown (d : Date) : String :=
  "datetime.date(" ++ ", ".intercalate (d.parts.map toString) ++ ")"

/-- Seconds and microseconds are left out when they are zero. -/
def Moment.shown (t : Moment) : String :=
  let fine := if t.micro != 0 then [t.second, t.micro] else if t.second != 0 then [t.second] else []
  let numbers := (t.date.parts ++ [t.hour, t.minute] ++ fine).map toString
  let zone := match t.offset with
    | none => []
    | some o => ["tzinfo=" ++ zoneShown o]
  "datetime.datetime(" ++ ", ".intercalate (numbers ++ zone) ++ ")"

namespace Value

/-- Items between brackets. -/
def bracketed (left right : String) (items : List String) : String :=
  left ++ ", ".intercalate items ++ right

mutual

def shown : Value → String
  | null => "None"
  | bool b => if b then "True" else "False"
  | int n => toString n
  | float x => x.text
  | text s => Text.quoted s
  | bytes bs => Text.quotedBytes bs
  | date d => d.shown
  | moment t => t.shown
  | list items => bracketed "[" "]" (shownItems items)
  | tuple items =>
    match shownItems items with
    | [one] => "(" ++ one ++ ",)"
    | all => bracketed "(" ")" all
  | set items => if items.isEmpty then "set()" else bracketed "\x7b" "\x7d" (shownItems items)
  | map entries => bracketed "\x7b" "\x7d" (shownEntries entries)
  | object s => s

def shownItems : List Value → List String
  | [] => []
  | v :: rest => shown v :: shownItems rest

def shownEntries : List (Value × Value) → List String
  | [] => []
  | (k, v) :: rest => (shown k ++ ": " ++ shown v) :: shownEntries rest

end

/-- A value standing alone. -/
def plain : Value → String
  | text s => s
  | date d => d.text
  | moment t => t.text
  | v => v.shown

/-- Why a value cannot be shown. -/
inductive Unshown where
  /-- An integer in it has more digits than may be written. -/
  | longInteger
  /-- The stack has no room for so many levels. -/
  | tooDeep
  deriving Repr, DecidableEq

mutual

/-- What comes up first against showing a value, with room for so many levels. -/
def unshownWithin? : Nat → Value → Option Unshown
  | 0, _ => some .tooDeep
  | _ + 1, int n => if Text.isLong n then some .longInteger else none
  | room + 1, list items => unshownAmong? room items
  | room + 1, tuple items => unshownAmong? room items
  | room + 1, set items => unshownAmong? room items
  | room + 1, map entries => unshownPair? room entries
  | _ + 1, _ => none

def unshownAmong? (room : Nat) : List Value → Option Unshown
  | [] => none
  | v :: rest => (unshownWithin? room v).or (unshownAmong? room rest)

def unshownPair? (room : Nat) : List (Value × Value) → Option Unshown
  | [] => none
  | (k, v) :: rest => ((unshownWithin? room k).or (unshownWithin? room v)).or (unshownPair? room rest)

end

/-- What comes up first against showing a value. -/
def unshown? [Stack] (v : Value) : Option Unshown :=
  v.unshownWithin? Stack.shown

def kindName : Value → String
  | null => "NoneType"
  | bool _ => "bool"
  | int _ => "int"
  | float _ => "float"
  | text _ => "str"
  | bytes _ => "bytes"
  | date _ => "datetime.date"
  | moment _ => "datetime.datetime"
  | list _ => "list"
  | tuple _ => "tuple"
  | set _ => "set"
  | map _ => "dict"
  | object _ => "object"

end Value
end PageHarvest
