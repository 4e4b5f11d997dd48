import TemplateGuard.Tag.Kind
import TemplateGuard.Text.Cut

namespace TemplateGuard

/-- One tag, delimiters included, at the half-open range from `start` to `stop`. -/
structure TagSpan where
  start : Nat
  stop : Nat
  kind : TagKind
  text : Text
  deriving DecidableEq, Repr

namespace Tag

/-- The number of characters up to the end of the first closer of the kind. -/
def closeLength (k : TagKind) : Text → Option Nat
  | a :: b :: rest =>
    if a = k.closeMark ∧ b = '}' then some 2 else (closeLength k (b :: rest)).map (· + 1)
  | _ => none

/-- A tag at the head of a text; the closer is looked for after the two characters of the opener,
so the two never share a character. -/
def pattern : Pattern TagKind
  | '{' :: m :: rest => do
    let k ← TagKind.ofMark? m
    let n ← closeLength k rest
    return ⟨n + 2, k⟩
  | _ => none

end Tag

/-- Every tag of the text, from left to right and never overlapping. -/
def findTags (t : Text) : List TagSpan :=
  (Tag.pattern.locate t).map fun (start, text, kind) => ⟨start, start + text.length, kind, text⟩

def hasTags (t : Text) : Bool := Tag.pattern.matchesIn t

end TemplateGuard
