import TemplateGuard.Text.Blank

namespace TemplateGuard

namespace Yaml

/-- A place in a text; everything counts from zero. -/
structure Mark where
  index : Nat := 0
  line : Nat := 0
  column : Nat := 0
  deriving DecidableEq, Repr

/-- What is still to be read, and where it starts. -/
structure Cursor where
  rest : Text
  mark : Mark := {}
  deriving DecidableEq, Repr

/-- No text that can be read has this character, which stands for its end. -/
def ending : Char := '\x00'

def isBreak (c : Char) : Bool :=
  c == '\n' || c == '\r' || c == '\u0085' || c == '\u2028' || c == '\u2029'

def isBreakOrEnd (c : Char) : Bool := isBreak c || c == ending

/-- What may follow a word on the same line, or nothing more of the line. -/
def isSpaceOrEnd (c : Char) : Bool := c == ' ' || isBreakOrEnd c

/-- What parts one thing from the next. -/
def isGap (c : Char) : Bool := c == '\t' || isSpaceOrEnd c

def isSpaceOrTab (c : Char) : Bool := c == ' ' || c == '\t'

namespace Cursor

def peek (c : Cursor) : Char := c.rest.headD ending

def peekAt (c : Cursor) (n : Nat) : Char := c.rest.getD n ending

/-- One character further. Every break ends a line, but a carriage return before a line feed only
together with it. A byte order mark takes no column. -/
def next (c : Cursor) : Cursor :=
  match c.rest with
  | [] => c
  | ch :: rest =>
    let m := c.mark
    let mark : Mark :=
      if isBreak ch && !(ch == '\r' && rest.head? == some '\n') then ⟨m.index + 1, m.line + 1, 0⟩
      else if ch == '\uFEFF' then ⟨m.index + 1, m.line, m.column⟩
      else ⟨m.index + 1, m.line, m.column + 1⟩
    ⟨rest, mark⟩

def skip : Nat → Cursor → Cursor
  | 0, c => c
  | n + 1, c => skip n c.next

/-- The run of characters of a class, and the place after it. -/
def span (c : Cursor) (p : Char → Bool) : Text × Cursor :=
  let run := c.rest.takeWhile p
  (run, c.skip run.length)

def skipWhile (c : Cursor) (p : Char → Bool) : Cursor := (c.span p).2

/-- A line break as it counts in a text, if one is next: the separators of Unicode are kept, all
others are a line feed. -/
def lineBreak (c : Cursor) : Text × Cursor :=
  let ch := c.peek
  if ch == '\r' && c.peekAt 1 == '\n' then (['\n'], c.skip 2)
  else if ch == '\u2028' || ch == '\u2029' then ([ch], c.next)
  else if isBreak ch then (['\n'], c.next)
  else ([], c)

def skipComment (c : Cursor) : Cursor :=
  if c.peek == '#' then c.skipWhile fun ch => !isBreakOrEnd ch else c

/-- Whether three of these characters stand alone here, as they do between documents. -/
def atTriple (c : Cursor) (ch : Char) : Bool :=
  c.rest.take 3 == [ch, ch, ch] && isGap (c.peekAt 3)

def atSeparator (c : Cursor) : Bool := c.atTriple '-' || c.atTriple '.'

end Cursor

end Yaml

end TemplateGuard
