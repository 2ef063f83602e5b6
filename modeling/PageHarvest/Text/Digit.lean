import PageHarvest.Text.Blank

/-!
Decimal digits of every script, and the integers written with them.
-/
namespace PageHarvest.Text

/-- Code points of the zeros of each script beyond ASCII; nine more digits follow each (Unicode 14). -/
def digitZeros : List Nat := [
  0x660, 0x6f0, 0x7c0, 0x966, 0x9e6, 0xa66, 0xae6, 0xb66, 0xbe6, 0xc66, 0xce6, 0xd66, 0xde6,
  0xe50, 0xed0, 0xf20, 0x1040, 0x1090, 0x17e0, 0x1810, 0x1946, 0x19d0, 0x1a80, 0x1a90, 0x1b50,
  0x1bb0, 0x1c40, 0x1c50, 0xa620, 0xa8d0, 0xa900, 0xa9d0, 0xa9f0, 0xaa50, 0xabf0, 0xff10,
  0x104a0, 0x10d30, 0x11066, 0x110f0, 0x11136, 0x111d0, 0x112f0, 0x11450, 0x114d0, 0x11650,
  0x116c0, 0x11730, 0x118e0, 0x11950, 0x11c50, 0x11d50, 0x11da0, 0x16a60, 0x16ac0, 0x16b50,
  0x1d7ce, 0x1d7d8, 0x1d7e2, 0x1d7ec, 0x1d7f6, 0x1e140, 0x1e2f0, 0x1e950, 0x1fbf0]

/-- The value of a decimal digit in any script. -/
def digitValue? (c : Char) : Option Nat :=
  let n := c.toNat
  if n < 0x80 then
    if c.isDigit then some (n - 48) else none
  else
    (digitZeros.find? fun z => z ≤ n && n ≤ z + 9).map (n - ·)

def isDigit (c : Char) : Bool :=
  (digitValue? c).isSome

/-- Digits with single underscores between them; `value` is what has been read so far. -/
def digitsValue? (value : Nat) : List Char → Option Nat
  | [] => some value
  | '_' :: c :: rest =>
    match digitValue? c with
    | some d => digitsValue? (value * 10 + d) rest
    | none => none
  | c :: rest =>
    match digitValue? c with
    | some d => digitsValue? (value * 10 + d) rest
    | none => none

/-- A run of digits that starts with a digit. -/
def natural? (cs : List Char) : Option Nat :=
  match cs with
  | c :: _ => if (digitValue? c).isSome then digitsValue? 0 cs else none
  | [] => none

/-- The most digits that an integer in decimal may have. -/
def mostDigits : Nat := 4300

/-- What is said of an integer with more digits than that; `known` is about how many they are. -/
def longInteger (known : String) : String :=
  "Exceeds the limit (" ++ toString mostDigits ++ " digits) for integer string conversion" ++ known ++
    "; use sys.set_int_max_str_digits() to increase the limit"

/-- Whether an integer has more digits than that. -/
def isLong (n : Int) : Bool :=
  Nat.pow 10 mostDigits ≤ n.natAbs

/-- What is said of one that is read. -/
def tooManyDigits (n : Nat) : String :=
  longInteger (": value has " ++ toString n ++ " digits")

/-- Blanks that may stand around a number. -/
def isNumberGap (c : Char) : Bool :=
  isBlank c && !(0x1c ≤ c.toNat && c.toNat ≤ 0x1f)

/-- The digits at the front of a text, after blanks and one sign. -/
def leadingDigits (cs : List Char) : Nat :=
  let body := match trimBy isNumberGap cs with
    | '-' :: rest => rest
    | '+' :: rest => rest
    | cs => cs
  (body.takeWhile fun c => isDigit c || c == '_').countP isDigit

/-- An integer in decimal: blanks around it, one sign, digits with single underscores between. -/
def integer? (s : String) : Option Int :=
  if mostDigits < leadingDigits s.toList then none
  else match trimBy isNumberGap s.toList with
    | '-' :: rest => (natural? rest).map fun n => -(n : Int)
    | '+' :: rest => (natural? rest).map Int.ofNat
    | cs => (natural? cs).map Int.ofNat

end PageHarvest.Text
