import TemplateGuard.Number.Double
import TemplateGuard.Text.Blank
import TemplateGuard.Text.Digit

namespace TemplateGuard

namespace Numeral

/-- Blanks that may surround a numeral; the four separators of the control range may not. -/
def isMargin (c : Char) : Bool := isBlank c && !(0x1C ≤ c.toNat && c.toNat ≤ 0x1F)

def strip (t : Text) : Text :=
  ((t.dropWhile isMargin).reverse.dropWhile isMargin).reverse

/-- Whether a sign stands first, and what follows it. -/
def sign : Text → Bool × Text
  | '-' :: rest => (true, rest)
  | '+' :: rest => (false, rest)
  | t => (false, t)

/-- The value of a digit of a base up to sixteen, which beyond ten are letters. -/
def digitIn? (base : Nat) (c : Char) : Option Nat :=
  ((digitValue? c).or (hexValue? c)).filter (· < base)

/-- The longest run of digits at the head, with single underscores between digits: their number,
their value after `acc`, and the rest. -/
def digits (base : Nat) : Nat → Nat → Text → Nat × Nat × Text
  | count, acc, '_' :: d :: rest =>
    match digitIn? base d with
    | some v => if count = 0 then (count, acc, '_' :: d :: rest)
      else digits base (count + 1) (acc * base + v) rest
    | none => (count, acc, '_' :: d :: rest)
  | count, acc, c :: rest =>
    match digitIn? base c with
    | some v => digits base (count + 1) (acc * base + v) rest
    | none => (count, acc, c :: rest)
  | count, acc, [] => (count, acc, [])

/-- The letter that names a base after a zero. -/
def baseMark? : Nat → Option Char
  | 2 => some 'b'
  | 8 => some 'o'
  | 16 => some 'x'
  | _ => none

/-- What follows the mark of the base, which may be missing; one underscore may stand after it. -/
def unmarked (base : Nat) : Text → Text
  | zero :: mark :: rest =>
    if digitValue? zero = some 0 ∧ baseMark? base = some mark.toLower then
      if rest.head? = some '_' then rest.drop 1 else rest
    else zero :: mark :: rest
  | t => t

/-- The most digits that a whole number is read from, leading zeros among them, if its base has no
mark. -/
def maxDigits : Nat := 4300

inductive Flaw where
  | malformed
  | tooLong (count : Nat)
  deriving DecidableEq, Repr

/-- What is said about a number with more digits than are read. -/
def tooLongMessage (count : Nat) : String :=
  "Exceeds the limit (" ++ toString maxDigits ++
    " digits) for integer string conversion: value has " ++ toString count ++
    " digits; use sys.set_int_max_str_digits() to increase the limit"

def int (base : Nat) (t : Text) : Except Flaw Int :=
  let (negative, body) := sign (strip t)
  match digits base 0 0 (unmarked base body) with
  | (0, _, _) => .error .malformed
  | (count, n, rest) =>
    if rest.head? = some '_' then .error .malformed
    else if baseMark? base = none ∧ maxDigits < count then .error (.tooLong count)
    else if rest.isEmpty then .ok (if negative then -(n : Int) else n)
    else .error .malformed

/-- The exponent at the end of a real number: nothing, or a mark, a sign and digits. -/
def exponent? : Text → Option Int
  | [] => some 0
  | c :: rest =>
    if c = 'e' ∨ c = 'E' then
      let (negative, body) := sign rest
      match digits 10 0 0 body with
      | (_ + 1, n, []) => some (if negative then -(n : Int) else n)
      | _ => none
    else none

/-- A decimal with an optional point and exponent; one of the two sides of the point has digits, and
those after it continue the value of those before it. -/
def decimal? (negative : Bool) (t : Text) : Option Double :=
  let (whole, n, rest) := digits 10 0 0 t
  match rest with
  | '.' :: frac =>
    let (places, all, tail) := digits 10 0 n frac
    if whole + places = 0 then none
    else (exponent? tail).map fun e => Double.ofDecimal negative all (e - places)
  | _ => if whole = 0 then none else (exponent? rest).map fun e => Double.ofDecimal negative n e

/-- A real number: a decimal, or one of the names of the special numbers in any case. -/
def real? (t : Text) : Option Double :=
  let (negative, body) := sign (strip t)
  let lower := String.ofList (body.map Char.toLower)
  if lower = "inf" ∨ lower = "infinity" then some (.infinite negative)
  else if lower = "nan" then some (.nan false)
  else decimal? negative body

end Numeral

end TemplateGuard
