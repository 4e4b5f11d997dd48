import TemplateGuard.Yaml.Cursor

namespace TemplateGuard

namespace Yaml

/-- The marks that have a meaning of their own inside brackets. -/
def isFlowMark (c : Char) : Bool := c == ',' || c == '[' || c == ']' || c == '{' || c == '}'

namespace PlainScalar

/-- Characters up to a gap. Inside brackets their marks end the run too, and so does a question
mark. -/
def run (flow : Bool) : Text → Text
  | [] => []
  | c :: rest =>
    let after := rest.headD ending
    if isGap c || (c == ':' && (isGap after || (flow && isFlowMark after))) ||
        (flow && (isFlowMark c || c == '?')) then []
    else c :: run flow rest

/-- Blank lines after a line break, and the spaces before what follows them; nothing where a
document ends. Each round takes a character. -/
def blankLines : Nat → Cursor → Option Text × Cursor
  | 0, c => (some [], c)
  | rounds + 1, c =>
    if c.peek == ' ' then blankLines rounds c.next
    else if isBreak c.peek then
      let (first, c) := c.lineBreak
      if c.atSeparator then (none, c)
      else
        let (more, c) := blankLines rounds c
        (more.map (first ++ ·), c)
    else (some [], c)

/-- What stands between two runs, and whether a line ended in it. -/
structure Gap where
  text : Text
  broken : Bool

/-- The spaces after a run. A line break counts as a space, and blank lines as breaks; there is no
gap where a document ends. -/
def gap (c : Cursor) : Gap × Cursor :=
  let (spaces, c) := c.span (· == ' ')
  if isBreak c.peek then
    let (first, c) := c.lineBreak
    if c.atSeparator then (⟨[], true⟩, c)
    else
      match blankLines (c.rest.length + 1) c with
      | (none, c) => (⟨[], true⟩, c)
      | (some more, c) =>
        let start := if first != ['\n'] then first else if more.isEmpty then [' '] else []
        (⟨start ++ more, true⟩, c)
  else (⟨spaces, false⟩, c)

/-- A scalar read: its text, its last place, whether a line ended after it, and what follows. -/
structure Read where
  text : Text
  stop : Mark
  broken : Bool
  after : Cursor

/-- Runs and the gaps between them. `before` is the gap before the next run, which counts only if
there is one. Each round takes a run. -/
def runs (flow : Bool) (indent : Nat) : Nat → Gap → Mark → Cursor → Read
  | 0, before, stop, c => ⟨[], stop, before.broken, c⟩
  | rounds + 1, before, stop, c =>
    let word := run flow c.rest
    if c.peek == '#' || word.isEmpty then ⟨[], stop, before.broken, c⟩
    else
      let c := c.skip word.length
      let stop := c.mark
      let (between, c) := gap c
      if between.text.isEmpty || c.peek == '#' || (!flow && decide (c.mark.column < indent)) then
        ⟨before.text ++ word, stop, between.broken, c⟩
      else
        let r := runs flow indent rounds between stop c
        { r with text := before.text ++ word ++ r.text }

/-- Reads a plain scalar; outside of brackets its further lines are indented by `indent` at least. -/
def scan (flow : Bool) (indent : Nat) (c : Cursor) : Read :=
  runs flow indent (c.rest.length + 1) ⟨[], false⟩ c.mark c

end PlainScalar

end Yaml

end TemplateGuard
