import PageHarvest.Number.Shortest

/-!
The text of a number: its shortest digits, positional from a ten-thousandth up to sixteen digits
before the point and with an exponent of at least two digits outside that range.
-/
namespace PageHarvest.Binary64

def digitsOf (n : Nat) : List Char :=
  Nat.toDigits 10 n

/-- Digits without the zeros at their end, and how many zeros were dropped. -/
def trimZeros (ds : List Char) : List Char × Nat :=
  let kept := (ds.reverse.dropWhile (· == '0')).reverse
  (kept, ds.length - kept.length)

/-- An exponent with its sign and at least two digits. -/
def exponentText (e : Int) : List Char :=
  let ds := digitsOf e.natAbs
  let padded := if ds.length < 2 then '0' :: ds else ds
  (if e < 0 then '-' else '+') :: padded

/-- Digits `ds` with the point after the first `point` of them. -/
def layout (ds : List Char) (point : Int) : List Char :=
  if -4 < point && point ≤ 16 then
    if point ≤ 0 then
      '0' :: '.' :: List.replicate point.natAbs '0' ++ ds
    else
      let whole := ds.take point.natAbs
      let rest := ds.drop point.natAbs
      whole ++ List.replicate (point.natAbs - whole.length) '0' ++
        '.' :: (if rest.isEmpty then ['0'] else rest)
  else
    let rest := ds.drop 1
    ds.take 1 ++ (if rest.isEmpty then [] else '.' :: rest) ++ 'e' :: exponentText (point - 1)

def text : Binary64 → String
  | nan => "nan"
  | infinite negative => if negative then "-inf" else "inf"
  | finite negative 0 _ => if negative then "-0.0" else "0.0"
  | finite negative m e =>
    let (n, g) := shortest m e
    let (ds, dropped) := trimZeros (digitsOf n)
    let body := layout ds (g + dropped + ds.length)
    String.ofList (if negative then '-' :: body else body)

end PageHarvest.Binary64
