import TemplateGuard.Yaml.Refusal

namespace TemplateGuard

namespace Yaml

namespace BlockScalar

/-- What becomes of the line breaks at the end: all are dropped, the first is kept, or all are. -/
inductive Chomping where
  | strip
  | clip
  | keep
  deriving DecidableEq, Repr

structure Header where
  chomping : Chomping := .clip
  increment : Option Nat := none
  deriving DecidableEq, Repr

def activity : String := "while scanning a block scalar"

def chomping? (c : Char) : Option Chomping :=
  if c == '+' then some .keep else if c == '-' then some .strip else none

/-- The indentation that the header asks for, if a digit is next. -/
def increment (start : Mark) (c : Cursor) : Except Refusal (Option Nat × Cursor) :=
  if c.peek == '0' then
    badToken activity start "expected indentation indicator in the range 1-9, but found 0" c.mark
  else if c.peek.isDigit then .ok (some (c.peek.toNat - '0'.toNat), c.next)
  else .ok (none, c)

/-- The header, its two parts in either order. -/
def header (start : Mark) (c : Cursor) : Except Refusal (Header × Cursor) := do
  let (h, c) ← match chomping? c.peek with
    | some how => do
      let (n, c) ← increment start c.next
      pure (({ chomping := how, increment := n } : Header), c)
    | none => do
      let (n, c) ← increment start c
      match n, chomping? c.peek with
      | some n, some how => pure (({ chomping := how, increment := some n } : Header), c.next)
      | n, _ => pure (({ increment := n } : Header), c)
  if isSpaceOrEnd c.peek then return (h, c)
  else badToken activity start (butFound "chomping or indentation indicators" c.peek) c.mark

def restOfLine (start : Mark) (c : Cursor) : Except Refusal Cursor :=
  let c := (c.skipWhile (· == ' ')).skipComment
  if isBreakOrEnd c.peek then .ok c.lineBreak.2
  else badToken activity start (butFound "a comment or a line break" c.peek) c.mark

/-- Lines before the first one with text, read to find the indentation. -/
structure Lead where
  breaks : Text
  deepest : Nat
  stop : Mark
  after : Cursor

/-- The blank lines at the head of a block and the deepest column reached in them. Each round takes
a character. -/
def lead : Nat → Lead → Lead
  | 0, l => l
  | rounds + 1, l =>
    let c := l.after
    if c.peek == ' ' then
      let c := c.next
      lead rounds { l with after := c, deepest := max l.deepest c.mark.column }
    else if isBreak c.peek then
      let (b, c) := c.lineBreak
      lead rounds { l with after := c, breaks := l.breaks ++ b, stop := c.mark }
    else l

def indentTo (indent : Nat) (c : Cursor) : Cursor :=
  let spaces := (c.rest.takeWhile (· == ' ')).length
  c.skip (min spaces (indent - c.mark.column))

/-- The blank lines before the next line with text: their breaks, and the place after the last of
them. Each round takes a line. -/
def breaks (indent : Nat) : Nat → Cursor → Text × Mark × Cursor
  | 0, c => ([], c.mark, c)
  | rounds + 1, c =>
    let stop := c.mark
    let c := indentTo indent c
    if isBreak c.peek then
      let (b, c) := c.lineBreak
      let (more, stop, c) := breaks indent rounds c
      (b ++ more, stop, c)
    else ([], stop, c)

/-- The end of a block: its last break and the blank lines after it. -/
structure Tail where
  text : Text
  last : Text
  blank : Text
  stop : Mark
  after : Cursor

/-- The lines of a block, each after the blank lines before it. Each round takes a line. -/
def lines (folded : Bool) (indent : Nat) : Nat → Text → Mark → Cursor → Tail
  | 0, blank, stop, c => ⟨[], [], blank, stop, c⟩
  | rounds + 1, blank, stop, c =>
    if c.mark.column != indent || c.peek == ending then ⟨[], [], blank, stop, c⟩
    else
      let flush := !isSpaceOrTab c.peek
      let (line, c) := c.span fun ch => !isBreakOrEnd ch
      let (last, c) := c.lineBreak
      let (more, stop, c) := breaks indent (c.rest.length + 1) c
      if c.mark.column == indent && c.peek != ending then
        let joint :=
          if folded && last == ['\n'] && flush && !isSpaceOrTab c.peek then
            if more.isEmpty then [' '] else []
          else last
        let t := lines folded indent rounds more stop c
        { t with text := blank ++ line ++ joint ++ t.text }
      else ⟨blank ++ line, last, more, stop, c⟩

/-- Reads a block whose lines are indented by `least` at least: its text, its last place, and what
follows. -/
def scan (folded : Bool) (least : Nat) (c : Cursor) : Except Refusal (Text × Mark × Cursor) := do
  let start := c.mark
  let (h, c) ← header start c.next
  let c ← restOfLine start c
  let least := max 1 least
  let (indent, blank, stop, c) := match h.increment with
    | none =>
      let l := lead (c.rest.length + 1) ⟨[], 0, c.mark, c⟩
      (max least l.deepest, l.breaks, l.stop, l.after)
    | some n =>
      let indent := least + n - 1
      let (blank, stop, c) := breaks indent (c.rest.length + 1) c
      (indent, blank, stop, c)
  let t := lines folded indent (c.rest.length + 1) blank stop c
  let chomped := match h.chomping with
    | .strip => []
    | .clip => t.last
    | .keep => t.last ++ t.blank
  return (t.text ++ chomped, t.stop, t.after)

end BlockScalar

end Yaml

end TemplateGuard
