import TemplateGuard.Number.Double

namespace TemplateGuard

namespace Double

structure Decimal where
  digits : Nat
  exponent : Int
  deriving DecidableEq, Repr

/-- The power of ten of the first digit of `num / den`, found from a start at or below it. -/
def leadingPower (num den : Nat) : Nat → Int → Int
  | 0, p => p
  | steps + 1, p =>
    let (n, d) := timesPower 10 num den (-(p + 1))
    if d ≤ n then leadingPower num den steps (p + 1) else p

/-- Of the two neighbours of `num / den` on the grid of multiples of 10^g, those that read back as
`x`, the nearer one first; of two that are equally near, the even one. -/
def gridChoice (x : Double) (num den : Nat) (g : Int) : Option Decimal :=
  let (n, d) := timesPower 10 num den (-g)
  let low := n / d
  let high := low + 1
  let lowFirst := 2 * (n % d) < d || (2 * (n % d) == d && low % 2 == 0)
  let candidates := if lowFirst then [low, high] else [high, low]
  (candidates.find? fun digits => ofDecimal false digits g == x).map fun digits => ⟨digits, g⟩

/-- The first grid, from the coarsest on, that has a point which reads back as `x`. -/
def finerGrids (x : Double) (num den : Nat) : Nat → Int → Decimal
  | 0, g => ⟨0, g⟩
  | steps + 1, g =>
    match gridChoice x num den g with
    | some c => c
    | none => finerGrids x num den steps (g - 1)

/-- The shortest decimal that reads back as the positive double m · 2^e. Seventeen digits always
suffice, and one more grid is allowed for a leading power found one too high. -/
def shortest (m : Nat) (e : Int) : Decimal :=
  let (num, den) := timesPower 2 m 1 e
  finerGrids (.finite false m e) num den 18 (leadingPower num den 700 (-330))

/-- Where positional writing ends: first digits below the one power of ten and from the other on
are written with an exponent. -/
def positionalPowers : Int × Int := (-4, 16)

/-- Digits with a point after the first `p + 1` of them, `p` being the power of ten of the first;
zeros fill both sides and a whole number keeps one zero after its point. -/
def positional (digits : List Char) (p : Int) : List Char :=
  if p < 0 then '0' :: '.' :: List.replicate (-p - 1).toNat '0' ++ digits
  else
    let whole := digits.take (p.toNat + 1)
    let rest := digits.drop (p.toNat + 1)
    whole ++ List.replicate (p.toNat + 1 - whole.length) '0' ++
      '.' :: (if rest.isEmpty then ['0'] else rest)

/-- Digits with a point after the first of them and the power of ten after an `e`, which is signed
and has two digits at least. -/
def scientific (digits : List Char) (p : Int) : List Char :=
  let power := Nat.toDigits 10 p.natAbs
  digits.take 1 ++ (if digits.length ≤ 1 then [] else '.' :: digits.drop 1) ++
    ['e', if p < 0 then '-' else '+'] ++ List.replicate (2 - power.length) '0' ++ power

def dropTrailingZeros (digits : List Char) : List Char :=
  (digits.reverse.dropWhile (· == '0')).reverse

def text : Double → String
  | .nan _ => "nan"
  | .infinite s => if s then "-inf" else "inf"
  | .finite s 0 _ => if s then "-0.0" else "0.0"
  | .finite s m e =>
    let c := shortest m e
    let all := Nat.toDigits 10 c.digits
    let p := c.exponent + all.length - 1
    let digits := dropTrailingZeros all
    let body :=
      if positionalPowers.1 ≤ p ∧ p < positionalPowers.2 then positional digits p
      else scientific digits p
    String.ofList (if s then '-' :: body else body)

end Double

end TemplateGuard
