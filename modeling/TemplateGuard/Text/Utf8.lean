import TemplateGuard.Text.Quoted

namespace TemplateGuard

namespace Utf8

/-- The bytes that are no character, by their first place and the one after their last, and why. -/
structure Flaw where
  bytes : List UInt8
  start : Nat
  reason : String
  deriving DecidableEq, Repr

/-- A byte alone is shown, of several only their places are. -/
def Flaw.message (f : Flaw) : String :=
  let what := match f.bytes with
    | [b] => "byte 0x" ++ String.ofList (Quoted.hex 2 b.toNat) ++ " in position " ++ toString f.start
    | bs => "bytes in position " ++ toString f.start ++ "-" ++ toString (f.start + bs.length - 1)
  "'utf-8' codec can't decode " ++ what ++ ": " ++ f.reason

/-- What the first byte of a character says: the bytes after it, the bounds of the second, and its
own bits. -/
def lead? (b : Nat) : Option (Nat × Nat × Nat × Nat) :=
  if b < 0x80 then some (0, 0, 0, b)
  else if 0xC2 ≤ b ∧ b ≤ 0xDF then some (1, 0x80, 0xBF, b - 0xC0)
  else if b = 0xE0 then some (2, 0xA0, 0xBF, 0)
  else if b = 0xED then some (2, 0x80, 0x9F, 0xD)
  else if 0xE1 ≤ b ∧ b ≤ 0xEF then some (2, 0x80, 0xBF, b - 0xE0)
  else if b = 0xF0 then some (3, 0x90, 0xBF, 0)
  else if b = 0xF4 then some (3, 0x80, 0x8F, 4)
  else if 0xF1 ≤ b ∧ b ≤ 0xF3 then some (3, 0x80, 0xBF, b - 0xF0)
  else none

/-- The following bytes of a character, the next of which is in the given bounds: its code point, or
how many of them fit and why no more do. -/
def follow : Nat → Nat → Nat → Nat → Nat → List UInt8 → Except (Nat × String) Nat
  | 0, _, _, code, _, _ => .ok code
  | _ + 1, _, _, _, fit, [] => .error (fit, "unexpected end of data")
  | n + 1, low, high, code, fit, b :: rest =>
    if low ≤ b.toNat ∧ b.toNat ≤ high then
      follow n 0x80 0xBF (code * 64 + b.toNat % 64) (fit + 1) rest
    else .error (fit, "invalid continuation byte")

/-- The characters of bytes after `start` others, the first `skip` of which are read already. -/
def decodeFrom : Nat → Nat → List UInt8 → Except Flaw Text
  | _, _, [] => .ok []
  | start, skip + 1, _ :: rest => decodeFrom (start + 1) skip rest
  | start, 0, b :: rest =>
    match lead? b.toNat with
    | none => .error ⟨[b], start, "invalid start byte"⟩
    | some (n, low, high, bits) =>
      match follow n low high bits 0 rest with
      | .error (fit, reason) => .error ⟨b :: rest.take fit, start, reason⟩
      | .ok code => do return Char.ofNat code :: (← decodeFrom (start + 1) n rest)

def decode (bytes : List UInt8) : Except Flaw Text := decodeFrom 0 0 bytes

end Utf8

end TemplateGuard
