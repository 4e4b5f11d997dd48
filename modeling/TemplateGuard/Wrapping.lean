import TemplateGuard.Tag.Wrapped
import TemplateGuard.Lexical.Scanner

namespace TemplateGuard

/-- A tag that starts fewer characters than this from a wrapped tag's inner start is left alone. -/
def wrappedProximity : Nat := 5

/-- The contexts of spans in ascending order, each span passed over as one token, and the scanner
after the last of them. -/
def Scanner.passAll : Scanner → List TagSpan → List Context × Scanner
  | s, [] => ([], s)
  | s, span :: spans =>
    let (c, next) := s.pass span.start span.stop
    let (cs, last) := passAll next spans
    (c :: cs, last)

def tagContexts (t : Text) : List Context := ((Scanner.ofText t).passAll (findTags t)).1

def tagsInStrings (t : Text) : List TagSpan :=
  (((findTags t).zip (tagContexts t)).filter fun (_, c) => c.isProtected).map Prod.fst

namespace Wrapping

def nearAny (starts : List Nat) (n : Nat) : Bool :=
  starts.any fun p => decide (p - n + (n - p) < wrappedProximity)

/-- Where the tags inside wrapped tags start. -/
def wrappedStarts (t : Text) : List Nat := (findWrapped t).map fun w => w.inner.start

/-- For each tag of the text, in order, whether it is to be enclosed. -/
def decisions (t : Text) : List Bool :=
  let starts := wrappedStarts t
  ((findTags t).zip (tagContexts t)).map fun (s, c) => c.isCode && !nearAny starts s.start

def enclose (tag : Text) : Text := ['/', '*', ' '] ++ tag ++ [' ', '*', '/']

/-- The pieces put together again, with the tags that are decided for enclosed. -/
def assemble : List (Piece TagKind) → List Bool → Text
  | [], _ => []
  | .plain c :: ps, ds => c :: assemble ps ds
  | .found t _ :: ps, true :: ds => enclose t ++ assemble ps ds
  | .found t _ :: ps, ds => t ++ assemble ps ds.tail

end Wrapping

/-- The text with every tag in code position enclosed in a block comment, but for those near a
wrapped one. -/
def wrap (t : Text) : Text := Wrapping.assemble (Tag.pattern.cut t) (Wrapping.decisions t)

def wrapCount (t : Text) : Nat := (Wrapping.decisions t).count true

end TemplateGuard
