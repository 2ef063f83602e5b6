import PageHarvest.Number.Binary64

/-!
The fewest decimal digits that read back as a given number, and of those the nearest to it.
-/
namespace PageHarvest.Binary64

def tenPow (e : Int) : Rat :=
  if e < 0 then 1 / (Nat.pow 10 e.natAbs : Nat) else ((Nat.pow 10 e.natAbs : Nat) : Rat)

/-- The rationals that round to `m · 2^e`, as lower and upper end; below a power of two the
neighbour is half as far. -/
def interval (m : Nat) (e : Int) : Rat × Rat :=
  let unit := twoPow e
  let value := m * unit
  let below := if m == Nat.pow 2 52 && -1074 < e then unit / 4 else unit / 2
  (value - below, value + unit / 2)

/-- Whether a rational rounds to `m · 2^e`; the ends do so when `m` is even. -/
def roundsTo (m : Nat) (e : Int) (q : Rat) : Bool :=
  let (low, high) := interval m e
  if m % 2 == 0 then low ≤ q && q ≤ high else low < q && q < high

/-- The least `p` with `q < 10^p`, looked for downwards from `p`. -/
def decimalPoint (q : Rat) (p : Int) : Nat → Int
  | 0 => p
  | fuel + 1 => if q < tenPow (p - 1) then decimalPoint q (p - 1) fuel else p

/-- The neighbours of `q` on the grid of step `10^g` that round to `m · 2^e`, the nearer first. -/
def gridHit? (m : Nat) (e : Int) (q : Rat) (g : Int) : Option Nat :=
  let step := tenPow g
  let low := (q / step).floor.toNat
  let hitLow := roundsTo m e (low * step)
  let hitHigh := roundsTo m e ((low + 1 : Nat) * step)
  if hitLow && hitHigh then
    let gap := q / step - low
    if gap < 1 / 2 || (gap == 1 / 2 && low % 2 == 0) then some low else some (low + 1)
  else if hitLow then some low
  else if hitHigh then some (low + 1)
  else none

/-- Tries grids of 1, 2, … digits below the decimal point `p`. -/
def search (m : Nat) (e : Int) (q : Rat) (p : Int) (digits : Nat) : Nat → Nat × Int
  | 0 => ((q / tenPow (p - digits)).floor.toNat, p - digits)
  | fuel + 1 =>
    match gridHit? m e q (p - digits) with
    | some n => (n, p - digits)
    | none => search m e q p (digits + 1) fuel

/-- Decimal digits and the exponent of the last one. -/
def shortest (m : Nat) (e : Int) : Nat × Int :=
  let q := m * twoPow e
  let start : Int := ((Nat.log2 m : Int) + e + 1) * 30103 / 100000 + 2
  search m e q (decimalPoint q start 5) 1 17

end PageHarvest.Binary64
