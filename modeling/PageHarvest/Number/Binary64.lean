/-!
Numbers in the binary format of 53 significant bits. Each finite one is an exact rational, and the
nearest number to a rational is chosen with ties to the even neighbour.
-/
namespace PageHarvest

/-- A number of the format. In `finite s m e` the value is `m · 2^e`, with `m < 2^53` and
`e ≥ -1074`; `e` is the least exponent that allows it, and zero has the exponent `-1074`. -/
inductive Binary64 where
  | nan
  | infinite (negative : Bool)
  | finite (negative : Bool) (significand : Nat) (exponent : Int)
  deriving Repr, DecidableEq, Inhabited

namespace Binary64

/-- The power of two with exponent `e`. -/
def twoPow (e : Int) : Rat :=
  if e < 0 then 1 / (Nat.pow 2 e.natAbs : Nat) else ((Nat.pow 2 e.natAbs : Nat) : Rat)

/-- The integer nearest to a non-negative rational, the even one of two equally near. -/
def roundEven (q : Rat) : Nat :=
  let low := q.floor
  let gap := q - low
  if gap < 1 / 2 then low.toNat
  else if 1 / 2 < gap then low.toNat + 1
  else if low.toNat % 2 == 0 then low.toNat else low.toNat + 1

/-- The exponent at which a positive rational has 53 significant bits, or the least exponent. -/
def exponentFor (q : Rat) : Int :=
  let guess : Int := (Nat.log2 q.num.natAbs : Int) - (Nat.log2 q.den : Int) - 52
  let e := if q < twoPow (guess + 52) then guess - 1 else guess
  max e (-1074)

/-- The nearest number to a non-negative rational, with the given sign. -/
def round (negative : Bool) (q : Rat) : Binary64 :=
  if q ≤ 0 then finite negative 0 (-1074)
  else
    let e := exponentFor q
    let m := roundEven (q / twoPow e)
    let (m, e) := if m == Nat.pow 2 53 then (Nat.pow 2 52, e + 1) else (m, e)
    if 971 < e then infinite negative else finite negative m e

def ofRat (q : Rat) : Binary64 :=
  if q < 0 then round true (-q) else round false q

/-- The value of a finite number. -/
def toRat? : Binary64 → Option Rat
  | finite negative m e => some (if negative then -(m * twoPow e) else m * twoPow e)
  | _ => none

/-- A number equal to zero of either sign. -/
def isZero : Binary64 → Bool
  | finite _ 0 _ => true
  | _ => false

/-- The sum, rounded. Infinities of both signs have none. -/
def add : Binary64 → Binary64 → Binary64
  | nan, _ => nan
  | _, nan => nan
  | infinite a, infinite b => if a == b then infinite a else nan
  | infinite a, _ => infinite a
  | _, infinite b => infinite b
  | x, y => ofRat (x.toRat?.getD 0 + y.toRat?.getD 0)

/-- The product with a positive rational, rounded. -/
def scale (q : Rat) : Binary64 → Binary64
  | finite negative m e => round negative (m * twoPow e * q)
  | x => x

/-- Order of the format: zeros are equal, and nothing compares with `nan`. -/
def lt : Binary64 → Binary64 → Bool
  | nan, _ => false
  | _, nan => false
  | infinite a, infinite b => a && !b
  | infinite a, _ => a
  | _, infinite b => !b
  | a, b => (a.toRat?.getD 0) < (b.toRat?.getD 0)

/-- Equality of the format: zeros are equal, and `nan` equals nothing. -/
def same : Binary64 → Binary64 → Bool
  | nan, _ => false
  | _, nan => false
  | infinite a, infinite b => a == b
  | infinite _, _ => false
  | _, infinite _ => false
  | a, b => a.toRat? == b.toRat?

end Binary64
end PageHarvest
