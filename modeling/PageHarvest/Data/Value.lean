import PageHarvest.Data.Calendar
import PageHarvest.Data.Table
import PageHarvest.Number.Binary64

/-!
Dynamic values, as definition files and callers give them before anything is known about their
shape. Mappings keep the order of their entries.
-/
namespace PageHarvest

inductive Value where
  | null
  | bool (b : Bool)
  | int (n : Int)
  | float (x : Binary64)
  | text (s : String)
  | bytes (bs : List UInt8)
  | date (d : Date)
  | moment (t : Moment)
  | list (items : List Value)
  | tuple (items : List Value)
  | set (items : List Value)
  | map (entries : List (Value × Value))
  /-- Something that is only known by its text. -/
  | object (shown : String)
  deriving Inhabited

/-- Entries of a mapping whose keys may be of any kind. -/
abbrev Mapping := Table Value Value

namespace Value

/-- A number as an exact rational, where it has one; truth values count as zero and one. -/
def number? : Value → Option Rat
  | bool b => some (if b then 1 else 0)
  | int n => some n
  | float x => x.toRat?
  | _ => none

/-- Whether two values are one key. Numbers of different kinds are one key when they are equal. -/
def sameKey (a b : Value) : Bool :=
  match a, b with
  | null, null => true
  | text s, text t => s == t
  | bytes s, bytes t => s == t
  | date s, date t => s == t
  | moment s, moment t =>
    if s.offset.isSome == t.offset.isSome then s.instant == t.instant else false
  | float (.infinite s), float (.infinite t) => s == t
  | float .nan, float .nan => true
  | a, b =>
    match a.number?, b.number? with
    | some x, some y => x == y
    | _, _ => false

/-- Whether a value can be a key. -/
def isKey : Value → Bool
  | list _ | set _ | map _ => false
  | _ => true

/-- What counts as nothing: null, false, zero, and texts and collections without content. -/
def isEmpty : Value → Bool
  | null => true
  | bool b => !b
  | int n => n == 0
  | float x => x.isZero
  | text s => s.isEmpty
  | bytes bs => bs.isEmpty
  | list items | tuple items | set items => items.isEmpty
  | map entries => entries.isEmpty
  | date _ | moment _ | object _ => false

/-- The text of a text. -/
def text? : Value → Option String
  | text s => some s
  | _ => none

/-- A text, or null for none. -/
def ofText? : Option String → Value
  | some s => text s
  | none => null

end Value

namespace Mapping

/-- Puts a value under a key; a key that counts as one already there keeps its old spelling. -/
def put (k v : Value) (m : Mapping) : Mapping :=
  Table.putBy Value.sameKey k v m

def field? (m : Mapping) (name : String) : Option Value :=
  (m.find? fun e => Value.sameKey e.1 (.text name)).map (·.2)

end Mapping
end PageHarvest
