import TemplateGuard.Tag.Span

namespace TemplateGuard

/-- A tag neutralised as a block comment: the outer range covers the comment delimiters. -/
structure WrappedSpan where
  start : Nat
  stop : Nat
  inner : TagSpan
  deriving DecidableEq, Repr

namespace Wrapped

/-- Where the tag stands inside a wrapped tag: after `lead` characters, for `length` characters. -/
structure Inside where
  kind : TagKind
  lead : Nat
  length : Nat
  deriving DecidableEq, Repr

/-- The length of a run of blanks followed by the end of a block comment. -/
def endLength : Text → Option Nat
  | '*' :: '/' :: _ => some 2
  | c :: rest => if isBlank c then (endLength rest).map (· + 1) else none
  | [] => none

/-- The first closer that is followed by blanks and a comment end: the number of characters up to
the end of the closer, and the length of what follows it. -/
def closeLengths (k : TagKind) : Text → Option (Nat × Nat)
  | a :: b :: rest =>
    let here := if a = k.closeMark ∧ b = '}' then endLength rest else none
    match here with
    | some n => some (2, n)
    | none => (closeLengths k (b :: rest)).map fun (m, n) => (m + 1, n)
  | _ => none

/-- The part of a wrapped tag after the comment opener and `lead` blanks. -/
def afterBlanks (lead : Nat) : Text → Option (Taken Inside)
  | '{' :: m :: rest => do
    let k ← TagKind.ofMark? m
    let (n, tail) ← closeLengths k rest
    return ⟨lead + (n + 2) + tail + 2, ⟨k, lead + 2, n + 2⟩⟩
  | _ => none

def pattern : Pattern Inside
  | '/' :: '*' :: rest => afterBlanks (rest.takeWhile isBlank).length (rest.dropWhile isBlank)
  | _ => none

def innerText (outer : Text) (i : Inside) : Text := (outer.drop i.lead).take i.length

end Wrapped

/-- Every wrapped tag of the text, from left to right and never overlapping. -/
def findWrapped (t : Text) : List WrappedSpan :=
  (Wrapped.pattern.locate t).map fun (start, outer, i) =>
    ⟨start, start + outer.length,
      ⟨start + i.lead, start + i.lead + i.length, i.kind, Wrapped.innerText outer i⟩⟩

def hasWrapped (t : Text) : Bool := Wrapped.pattern.matchesIn t

/-- Puts each wrapped tag back to its bare form. -/
def unwrap (t : Text) : Text := Wrapped.pattern.replace Wrapped.innerText t

end TemplateGuard
