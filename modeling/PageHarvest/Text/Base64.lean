/-!
Bytes written with sixty-four characters, four for three bytes. Other characters are passed over.
-/
namespace PageHarvest.Text.Base64

/-- The six bits that a character stands for. -/
def bits? (c : Char) : Option Nat :=
  if 'A' ≤ c && c ≤ 'Z' then some (c.toNat - 65)
  else if 'a' ≤ c && c ≤ 'z' then some (c.toNat - 71)
  else if c.isDigit then some (c.toNat + 4)
  else if c == '+' then some 62
  else if c == '/' then some 63
  else none

/-- The byte that the last bits of one character make with the first of the next one, which is at the
given place in its group of four. -/
def byte (place before bits : Nat) : UInt8 :=
  UInt8.ofNat <| match place with
    | 1 => before * 4 + bits / 16
    | 2 => before % 16 * 16 + bits / 4
    | _ => before % 4 * 64 + bits

/-- Decodes text from a place in a group of four on; `before` are the bits of the last character and
`pads` counts the padding after it. A group that is not complete needs padding to be. -/
def decodeFrom? (place before pads : Nat) : List Char → Option (List UInt8)
  | [] => if place == 0 then some [] else none
  | c :: rest =>
    if c == '=' then
      if 2 ≤ place then
        if 4 ≤ place + pads + 1 then some [] else decodeFrom? place before (pads + 1) rest
      else decodeFrom? place before pads rest
    else match bits? c with
      | none => decodeFrom? place before pads rest
      | some b =>
        if place == 0 then decodeFrom? 1 b 0 rest
        else (decodeFrom? ((place + 1) % 4) b 0 rest).map (byte place before b :: ·)

def decode? (cs : List Char) : Option (List UInt8) := decodeFrom? 0 0 0 cs

end PageHarvest.Text.Base64
