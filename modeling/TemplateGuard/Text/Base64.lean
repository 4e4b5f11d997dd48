import TemplateGuard.Text.Blank

namespace TemplateGuard

namespace Base64

/-- The value of a digit. -/
def digit? (c : Char) : Option Nat :=
  if c.isUpper then some (c.toNat - 'A'.toNat)
  else if c.isLower then some (c.toNat - 'a'.toNat + 26)
  else if c.isDigit then some (c.toNat - '0'.toNat + 52)
  else if c = '+' then some 62
  else if c = '/' then some 63
  else none

/-- Why a text writes no bytes: its last group is one digit, or is not filled up. -/
inductive Flaw where
  | loneDigit (count : Nat)
  | padding
  deriving DecidableEq, Repr

def Flaw.message : Flaw → String
  | .loneDigit count =>
    "Invalid base64-encoded string: number of data characters (" ++ toString count ++
      ") cannot be 1 more than a multiple of 4"
  | .padding => "Incorrect padding"

/-- A group so far: how many digits it has, its bits that are in no byte yet, and the equals signs
since its last digit. The bytes are kept with the last one first. -/
structure Group where
  digits : Nat := 0
  bits : Nat := 0
  pads : Nat := 0
  bytes : List UInt8 := []
  deriving DecidableEq, Repr

/-- Adds a digit to a group; every digit but the first completes a byte. -/
def Group.push (g : Group) (d : Nat) : Group :=
  match g.digits with
  | 0 => ⟨1, d, 0, g.bytes⟩
  | 1 => ⟨2, d % 16, 0, (g.bits * 4 + d / 16).toUInt8 :: g.bytes⟩
  | 2 => ⟨3, d % 4, 0, (g.bits * 16 + d / 4).toUInt8 :: g.bytes⟩
  | _ => ⟨0, 0, 0, (g.bits * 64 + d).toUInt8 :: g.bytes⟩

def decodeFrom : Group → Text → Except Flaw (List UInt8)
  | g, [] =>
    if g.digits = 0 then .ok g.bytes.reverse
    else if g.digits = 1 then .error (.loneDigit (g.bytes.length / 3 * 4 + 1))
    else .error .padding
  | g, c :: rest =>
    if c = '=' then
      if g.digits < 2 then decodeFrom g rest
      else if 4 ≤ g.digits + g.pads + 1 then .ok g.bytes.reverse
      else decodeFrom { g with pads := g.pads + 1 } rest
    else
      match digit? c with
      | none => decodeFrom g rest
      | some d => decodeFrom (g.push d) rest

/-- The bytes that a text writes. -/
def decode (t : Text) : Except Flaw (List UInt8) := decodeFrom {} t

end Base64

end TemplateGuard
