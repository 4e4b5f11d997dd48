namespace TemplateGuard

/-- A text is the list of its code points: every offset and length counts code points. -/
abbrev Text := List Char

/-- The white space characters: the ASCII controls that separate fields and lines, the space, and
the separators of the wider character set. The zero-width characters are not among them. -/
def isBlank (c : Char) : Bool :=
  let n := c.toNat
  (0x09 ≤ n && n ≤ 0x0D) || (0x1C ≤ n && n ≤ 0x20) || n == 0x85 || n == 0xA0 || n == 0x1680 ||
    (0x2000 ≤ n && n ≤ 0x200A) || n == 0x2028 || n == 0x2029 || n == 0x202F || n == 0x205F ||
    n == 0x3000

namespace Text

def trimLeft (t : Text) : Text := t.dropWhile isBlank

def trimRight (t : Text) : Text := (t.reverse.dropWhile isBlank).reverse

def trim (t : Text) : Text := t.trimLeft.trimRight

/-- A text without the line break at its end, unless that is all of it. -/
def withoutBreak (t : Text) : Text :=
  if 1 < t.length ∧ t.getLast? = some '\n' then t.dropLast else t

/-- The part of `t` between two offsets; an offset past the end stands for the end. -/
def between (t : Text) (start stop : Nat) : Text := (t.drop start).take (stop - start)

end Text

end TemplateGuard
