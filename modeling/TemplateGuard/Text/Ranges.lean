namespace TemplateGuard

/-- A class of characters as the closed ranges of their code points, in ascending order. -/
abbrev Ranges := Array (Nat × Nat)

namespace Ranges

/-- Whether `n` lies in one of the ranges from index `lo` up to `hi`; each round halves that stretch,
so as many rounds as there are ranges always suffice. -/
def hasBetween (ranges : Ranges) (n : Nat) : Nat → Nat → Nat → Bool
  | 0, _, _ => false
  | rounds + 1, lo, hi =>
    if lo < hi then
      let mid := (lo + hi) / 2
      let (a, b) := ranges.getD mid (0, 0)
      if n < a then hasBetween ranges n rounds lo mid
      else if b < n then hasBetween ranges n rounds (mid + 1) hi
      else true
    else false

def has (ranges : Ranges) (c : Char) : Bool :=
  hasBetween ranges c.toNat ranges.size 0 ranges.size

end Ranges

end TemplateGuard
