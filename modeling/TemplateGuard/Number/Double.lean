namespace TemplateGuard

/-- `finite s m e` is the number m · 2^e, negated if `s`. Values made here are normal: the mantissa
has 53 bits unless the exponent is the least one. The undefined number is computed anew each time,
or it is the constant of a data format, which is one and the same wherever it is written. -/
inductive Double where
  | nan (constant : Bool)
  | infinite (negative : Bool)
  | finite (negative : Bool) (mantissa : Nat) (exponent : Int)
  deriving DecidableEq, Repr

namespace Double

def minExponent : Int := -1074

def maxExponent : Int := 971

def zero (negative : Bool) : Double := .finite negative 0 minExponent

/-- `num / den` rounded to a whole number, a half to the even neighbour. -/
def roundDiv (num den : Nat) : Nat :=
  let q := num / den
  let r := num % den
  if den < 2 * r ∨ (2 * r = den ∧ q % 2 = 1) then q + 1 else q

/-- num / den · base^e, as a quotient again. -/
def timesPower (base num den : Nat) (e : Int) : Nat × Nat :=
  if e < 0 then (num, den * Nat.pow base (-e).toNat) else (num * Nat.pow base e.toNat, den)

/-- The least mantissa of a normal number: 2^52. -/
def leastNormal : Nat := 0x10000000000000

/-- The exponent for which num / (den · 2^e) has 53 bits before the point, or the least one. -/
def exponentFor (num den : Nat) : Int :=
  let guess : Int := (num.log2 : Int) - den.log2 - 52
  let (n, d) := timesPower 2 num den (-guess)
  max minExponent (if n / d < leastNormal then guess - 1 else guess)

/-- The double nearest to `num / den`; past the largest double it is infinite. -/
def ofRatio (negative : Bool) (num den : Nat) : Double :=
  if num = 0 then zero negative
  else
    let e := exponentFor num den
    let (n, d) := timesPower 2 num den (-e)
    let m := roundDiv n d
    let (m, e) := if m = 2 * leastNormal then (leastNormal, e + 1) else (m, e)
    if maxExponent < e then .infinite negative else .finite negative m e

/-- The decimal exponents outside of which every number is infinite, or zero. -/
def decimalReach : Int := 400

/-- The double nearest to digits · 10^exponent. -/
def ofDecimal (negative : Bool) (digits : Nat) (exponent : Int) : Double :=
  let magnitude := exponent + (Nat.toDigits 10 digits).length
  if digits = 0 ∨ magnitude < -decimalReach then zero negative
  else if decimalReach < magnitude then .infinite negative
  else
    let (num, den) := timesPower 10 digits 1 exponent
    ofRatio negative num den

/-- The double nearest to a whole number, if it is not past the largest double. -/
def ofInt? (n : Int) : Option Double :=
  match ofRatio (n < 0) n.natAbs 1 with
  | .infinite _ => none
  | x => some x

def isZero : Double → Bool
  | .finite _ m _ => m == 0
  | _ => false

/-- Equality of keys and members: the two zeros are equal, and of undefined numbers only the
constant equals itself. -/
def same (x y : Double) : Bool :=
  match x, y with
  | .nan a, .nan b => a && b
  | .nan _, _ => false
  | _, .nan _ => false
  | _, _ => x == y || (x.isZero && y.isZero)

def neg : Double → Double
  | .nan c => .nan c
  | .infinite s => .infinite (!s)
  | .finite s m e => .finite (!s) m e

/-- The sum of two numbers, rounded; an exact zero is negative only if both terms are. -/
def add (x y : Double) : Double :=
  match x, y with
  | .nan _, _ => .nan false
  | _, .nan _ => .nan false
  | .infinite s, .infinite t => if s = t then .infinite s else .nan false
  | .infinite s, _ => .infinite s
  | _, .infinite t => .infinite t
  | .finite s m e, .finite t n f =>
    let (a, b) := timesPower 2 m 1 e
    let (c, d) := timesPower 2 n 1 f
    let sum : Int := (if s then -1 else 1) * (a * d) + (if t then -1 else 1) * (c * b)
    if sum = 0 then zero (s && t) else ofRatio (decide (sum < 0)) sum.natAbs (b * d)

def mul (x y : Double) : Double :=
  match x, y with
  | .nan _, _ => .nan false
  | _, .nan _ => .nan false
  | .infinite s, .infinite t => .infinite (s != t)
  | .infinite s, .finite t n _ => if n = 0 then .nan false else .infinite (s != t)
  | .finite s m _, .infinite t => if m = 0 then .nan false else .infinite (s != t)
  | .finite s m e, .finite t n f =>
    let (num, den) := timesPower 2 (m * n) 1 (e + f)
    ofRatio (s != t) num den

def sameInt (x : Double) (n : Int) : Bool :=
  match x with
  | .finite s m e =>
    let (num, den) := timesPower 2 m 1 e
    n.natAbs * den == num && (num == 0 || s == decide (n < 0))
  | _ => false

end Double

end TemplateGuard
