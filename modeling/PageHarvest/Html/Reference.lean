import PageHarvest.Html.NamedCharacter

/-!
Character references in markup, by name or number. A reference that cannot be read is ordinary text.
-/
namespace PageHarvest.Html

/-- What the numbers from 0x80 to 0x9f stand for, where it is not themselves. -/
def legacyNumbers : List (Nat × Nat) := [
  (0x80, 0x20ac), (0x82, 0x201a), (0x83, 0x0192), (0x84, 0x201e), (0x85, 0x2026), (0x86, 0x2020),
  (0x87, 0x2021), (0x88, 0x02c6), (0x89, 0x2030), (0x8a, 0x0160), (0x8b, 0x2039), (0x8c, 0x0152),
  (0x8e, 0x017d), (0x91, 0x2018), (0x92, 0x2019), (0x93, 0x201c), (0x94, 0x201d), (0x95, 0x2022),
  (0x96, 0x2013), (0x97, 0x2014), (0x98, 0x02dc), (0x99, 0x2122), (0x9a, 0x0161), (0x9b, 0x203a),
  (0x9c, 0x0153), (0x9e, 0x017e), (0x9f, 0x0178)]

/-- The character of a number; zero and numbers that name none give the replacement character. -/
def numberedCharacter (n : Nat) : Char :=
  match legacyNumbers.find? fun e => e.1 == n with
  | some e => Char.ofNat e.2
  | none =>
    if n == 0 || 0x10ffff < n || (0xd800 ≤ n && n < 0xe000) then Char.ofNat 0xfffd else Char.ofNat n

def hexValue? (c : Char) : Option Nat :=
  if c.isDigit then some (c.toNat - 48)
  else if 'a' ≤ c && c ≤ 'f' then some (c.toNat - 87)
  else if 'A' ≤ c && c ≤ 'F' then some (c.toNat - 55)
  else none

def decimalValue? (c : Char) : Option Nat :=
  if c.isDigit then some (c.toNat - 48) else none

/-- A number in some base at the front, with its count of digits. -/
def numberRun (base : Nat) (digit? : Char → Option Nat) (value count : Nat) : List Char → Nat × Nat
  | [] => (value, count)
  | c :: rest =>
    match digit? c with
    | some d => numberRun base digit? (value * base + d) (count + 1) rest
    | none => (value, count)

/-- A reference by number, given what follows `&#`; the length counts from there. -/
def numbered? (cs : List Char) : Option (List Char × Nat) :=
  let (marked, (value, count)) : Nat × Nat × Nat := match cs with
    | 'x' :: rest | 'X' :: rest => (1, numberRun 16 hexValue? 0 0 rest)
    | _ => (0, numberRun 10 decimalValue? 0 0 cs)
  if count == 0 then none
  else
    let digits := marked + count
    let close := if (cs.drop digits).head? == some ';' then 1 else 0
    some ([numberedCharacter value], digits + close)

/-- A reference by name, given what follows `&`. In an attribute a name without its semicolon does
not count before a letter, a digit or an equals sign. -/
def named? (inAttribute : Bool) (cs : List Char) : Option (List Char × Nat) :=
  match longestName? cs with
  | none => none
  | some (name, chars) =>
    let closed := name.getLast? == some ';'
    let blocked := match (cs.drop name.length).head? with
      | some c => c.isAlphanum || c == '='
      | none => false
    if inAttribute && !closed && blocked then none else some (chars, name.length)

/-- The reference whose ampersand stands before the given text. -/
def reference? (inAttribute : Bool) : List Char → Option (List Char × Nat)
  | '#' :: rest => (numbered? rest).map fun (chars, n) => (chars, n + 1)
  | cs => named? inAttribute cs

/-- Text with its references replaced; `skip` characters belong to a reference already read. -/
def resolveFrom (inAttribute : Bool) (skip : Nat) : List Char → List Char
  | [] => []
  | c :: rest =>
    match skip with
    | k + 1 => resolveFrom inAttribute k rest
    | 0 =>
      if c == '&' then
        match reference? inAttribute rest with
        | some (chars, n) => chars ++ resolveFrom inAttribute n rest
        | none => c :: resolveFrom inAttribute 0 rest
      else c :: resolveFrom inAttribute 0 rest

def resolve (inAttribute : Bool) (cs : List Char) : List Char :=
  resolveFrom inAttribute 0 cs

end PageHarvest.Html
