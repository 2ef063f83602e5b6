/-!
Strict reading of UTF-8. A failure says at which byte it was found and why.
-/
namespace PageHarvest.Text.Utf8

/-- Why bytes are not UTF-8: `first` and `last` bound the bytes that cannot be read. -/
structure Malformed where
  first : Nat
  last : Nat
  byte : UInt8
  reason : String
  deriving Repr, DecidableEq

/-- One byte is named by its value, several only by their positions. -/
def Malformed.message (m : Malformed) : String :=
  let hex := String.ofList
    (let ds := Nat.toDigits 16 m.byte.toNat
     List.replicate (2 - ds.length) '0' ++ ds)
  if m.first == m.last then
    "'utf-8' codec can't decode byte 0x" ++ hex ++ " in position " ++ toString m.first ++ ": " ++
      m.reason
  else
    "'utf-8' codec can't decode bytes in position " ++ toString m.first ++ "-" ++
      toString m.last ++ ": " ++ m.reason

/-- How a sequence goes on after its lead byte: how many bytes follow, the payload of the lead, and
the range of the first that follows. That range keeps out long forms, surrogates and numbers beyond
the last character. -/
def shape? (lead : UInt8) : Option (Nat × Nat × Nat × Nat) :=
  let n := lead.toNat
  if n < 0xc2 then none
  else if n < 0xe0 then some (1, n - 0xc0, 0x80, 0xbf)
  else if n == 0xe0 then some (2, 0, 0xa0, 0xbf)
  else if n == 0xed then some (2, 13, 0x80, 0x9f)
  else if n < 0xf0 then some (2, n - 0xe0, 0x80, 0xbf)
  else if n == 0xf0 then some (3, 0, 0x90, 0xbf)
  else if n < 0xf4 then some (3, n - 0xf0, 0x80, 0xbf)
  else if n == 0xf4 then some (3, 4, 0x80, 0x8f)
  else none

/-- Reads the `count` bytes that must follow a lead byte; a failure tells how many were right. -/
def follow (count value lo hi : Nat) (seen : Nat) : List UInt8 → Except (Nat × Bool) Nat
  | [] => if count == 0 then .ok value else .error (seen, true)
  | b :: rest =>
    match count with
    | 0 => .ok value
    | k + 1 =>
      if lo ≤ b.toNat && b.toNat ≤ hi then
        follow k (value * 64 + (b.toNat - 0x80)) 0x80 0xbf (seen + 1) rest
      else .error (seen, false)

/-- Reads from position `at`; `skip` bytes belong to a character that is already read. -/
def decodeFrom (position skip : Nat) : List UInt8 → Except Malformed (List Char)
  | [] => .ok []
  | b :: rest =>
    match skip with
    | k + 1 => decodeFrom (position + 1) k rest
    | 0 =>
      if b.toNat < 0x80 then do
        let cs ← decodeFrom (position + 1) 0 rest
        return Char.ofNat b.toNat :: cs
      else
        match shape? b with
        | none => .error ⟨position, position, b, "invalid start byte"⟩
        | some (count, payload, lo, hi) =>
          match follow count payload lo hi 0 rest with
          | .error (seen, true) => .error ⟨position, position + seen, b, "unexpected end of data"⟩
          | .error (seen, false) => .error ⟨position, position + seen, b, "invalid continuation byte"⟩
          | .ok value => do
            let cs ← decodeFrom (position + 1) count rest
            return Char.ofNat value :: cs

def decode (bytes : List UInt8) : Except Malformed String :=
  (decodeFrom 0 0 bytes).map String.ofList

end PageHarvest.Text.Utf8
