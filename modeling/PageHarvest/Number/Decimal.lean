import PageHarvest.Number.Binary64

/-!
Reading decimal numbers with a fraction and an exponent: the exact value, then the nearest number
of the binary format.
-/
namespace PageHarvest.Binary64

/-- Value of a run of decimal digits; other characters count as zero. -/
def digitsToNat (ds : List Char) : Nat :=
  ds.foldl (fun n c => n * 10 + (c.toNat - 48)) 0

/-- The nearest number to `digits · 10^exponent`. Exponents far outside the format are decided from
the number of digits alone. -/
def ofDecimal (negative : Bool) (digits : List Char) (exponent : Int) : Binary64 :=
  let n := digitsToNat digits
  let size : Int := (Nat.toDigits 10 n).length
  if n == 0 then finite negative 0 (-1074)
  else if 400 < size + exponent then infinite negative
  else if size + exponent < -400 then finite negative 0 (-1074)
  else if exponent < 0 then round negative (n / (Nat.pow 10 exponent.natAbs : Nat))
  else round negative ((n * Nat.pow 10 exponent.natAbs : Nat) : Rat)

end PageHarvest.Binary64
