import PageHarvest.Data.Display

/-!
Sorting keys of any kind. Keys of different kinds have no order, and the sort reports the first pair
that it had to compare without one.
-/
namespace PageHarvest.Value

/-- Order of lists of numbers, a beginning before what extends it. -/
def lexLess (a b : List Nat) : Bool :=
  match a, b with
  | [], [] => false
  | [], _ :: _ => true
  | _ :: _, [] => false
  | x :: xs, y :: ys => x < y || (x == y && lexLess xs ys)

/-- Texts compare by code point. -/
def textLess (s t : String) : Bool :=
  lexLess (s.toList.map Char.toNat) (t.toList.map Char.toNat)

/-- Values that count as numbers, infinities and `nan` included. -/
def asFloat? : Value → Option Binary64
  | float x => some x
  | _ => none

/-- Whether `a` comes before `b`; the error names two kinds without an order. -/
def less? (a b : Value) : Except String Bool :=
  let unordered := Except.error
    ("'<' not supported between instances of '" ++ a.kindName ++ "' and '" ++ b.kindName ++ "'")
  match a, b with
  | text s, text t => .ok (textLess s t)
  | bytes s, bytes t => .ok (lexLess (s.map UInt8.toNat) (t.map UInt8.toNat))
  | date s, date t => .ok (Calendar.dayNumber s < Calendar.dayNumber t)
  | moment s, moment t =>
    if s.offset.isSome == t.offset.isSome then .ok (s.instant < t.instant)
    else .error "can't compare offset-naive and offset-aware datetimes"
  | date _, moment _ => .error "can't compare datetime.datetime to datetime.date"
  | moment _, date _ => .error "can't compare datetime.datetime to datetime.date"
  | a, b =>
    match a.number?, b.number? with
    | some x, some y => .ok (x < y)
    | _, _ =>
      match a.asFloat?, b.asFloat?, a.number?.isSome, b.number?.isSome with
      | some x, some y, _, _ => .ok (x.lt y)
      | some x, none, _, true => .ok (x == .infinite true)
      | none, some y, true, _ => .ok (y == .infinite false)
      | _, _, _, _ => unordered

/-- How many keys at the front go on in one direction after `last`: steadily down, or never down. -/
def frontRun (falling : Bool) (last : Value) : List Value → Except String Nat
  | [] => .ok 0
  | v :: rest => do
    if (← less? v last) == falling then return (← frontRun falling v rest) + 1 else return 0

/-- Where a key belongs in sorted keys: after all that are not greater. Halves the range
`[lo, lo + fuel)` at each step. -/
def insertionPoint (sorted : Array Value) (v : Value) (lo hi : Nat) : Nat → Except String Nat
  | 0 => .ok lo
  | fuel + 1 =>
    if hi ≤ lo then .ok lo
    else do
      let mid := (lo + hi) / 2
      if (← less? v (sorted.getD mid .null)) then insertionPoint sorted v lo mid fuel
      else insertionPoint sorted v (mid + 1) hi fuel

/-- Inserts keys one by one into a sorted run. -/
def insertAll (sorted : List Value) : List Value → Except String (List Value)
  | [] => .ok sorted
  | v :: rest => do
    let n ← insertionPoint sorted.toArray v 0 sorted.length sorted.length
    insertAll (sorted.take n ++ v :: sorted.drop n) rest

/-- Keys in increasing order: the run at the front is taken as it is, or turned round when it falls,
and the others are inserted into it. -/
def sorted? : List Value → Except String (List Value)
  | [] => .ok []
  | [v] => .ok [v]
  | v :: w :: rest => do
    let falling ← less? w v
    let n ← frontRun falling w rest
    let run := v :: w :: rest.take n
    insertAll (if falling then run.reverse else run) (rest.drop n)

end PageHarvest.Value
