import TemplateGuard.Text.Digit
import TemplateGuard.Text.Surrogate
import TemplateGuard.Yaml.Refusal

namespace TemplateGuard

namespace Yaml

namespace QuotedScalar

def escaped? : Char → Option Char
  | '0' => some '\x00'
  | 'a' => some '\x07'
  | 'b' => some '\x08'
  | 't' => some '\t'
  | '\t' => some '\t'
  | 'n' => some '\n'
  | 'v' => some '\x0b'
  | 'f' => some '\x0c'
  | 'r' => some '\r'
  | 'e' => some '\x1b'
  | ' ' => some ' '
  | '\x22' => some '\x22'
  | '\\' => some '\\'
  | '/' => some '/'
  | 'N' => some '\u0085'
  | '_' => some '\u00a0'
  | 'L' => some '\u2028'
  | 'P' => some '\u2029'
  | _ => none

def codeLength? : Char → Option Nat
  | 'x' => some 2
  | 'u' => some 4
  | 'U' => some 8
  | _ => none

/-- The number that the first `n` hexadecimal digits write, or the character that is none. -/
def hexNumber (c : Cursor) (n : Nat) : Except Char Nat :=
  (List.range n).foldlM (fun acc k =>
    match hexValue? (c.peekAt k) with
    | some d => .ok (acc * 16 + d)
    | none => .error (c.peekAt k)) 0

/-- Refuses a number that is no code point. -/
def checkCode (code : Nat) : Except Refusal Unit :=
  if 0x7FFFFFFF < code then .error (.plain .tooWide)
  else if 0x10FFFF < code then .error (.plain (.malformed "chr() arg not in range(0x110000)"))
  else .ok ()

/-- The low half of a pair, written as an escape at the head. -/
def lowHalf? (c : Cursor) : Option Nat :=
  if c.peek == '\\' && c.peekAt 1 == 'u' then
    (hexNumber (c.skip 2) 4).toOption.filter Surrogate.isLow
  else none

def doubleActivity : String := "while scanning a double-quoted scalar"

def activity : String := "while scanning a quoted scalar"

/-- An escape with a code point, from after its letter; two escapes with the halves of a pair are for
one character. -/
def codeEscape (start : Mark) (n : Nat) (c : Cursor) : Except Refusal (Char × Cursor) :=
  match hexNumber c n with
  | .ok code => do
    checkCode code
    let rest := c.skip n
    match lowHalf? rest with
    | some low =>
      if Surrogate.isHigh code then return (Surrogate.join code low, rest.skip 6)
      else return (Surrogate.alone code, rest)
    | none => return (Surrogate.alone code, rest)
  | .error found =>
    badToken doubleActivity start
      (butFound ("escape sequence of " ++ toString n ++ " hexadecimal numbers") found) c.mark

/-- Blank lines, each of which counts as a break. Each round takes a line. -/
def breaks (start : Mark) : Nat → Cursor → Except Refusal (Text × Cursor)
  | 0, c => .ok ([], c)
  | rounds + 1, c =>
    if c.atSeparator then badToken activity start "found unexpected document separator" c.mark
    else
      let c := c.skipWhile isSpaceOrTab
      if isBreak c.peek then do
        let (first, c) := c.lineBreak
        let (more, c) ← breaks start rounds c
        return (first ++ more, c)
      else .ok ([], c)

/-- Spaces inside the quotes. Those around a line break are dropped with it. -/
def spaces (start : Mark) (c : Cursor) : Except Refusal (Text × Cursor) :=
  let (run, c) := c.span isSpaceOrTab
  if c.peek == ending then badToken activity start "found unexpected end of stream" c.mark
  else if isBreak c.peek then do
    let (first, c) := c.lineBreak
    let (more, c) ← breaks start (c.rest.length + 1) c
    return ((if first != ['\n'] then first else if more.isEmpty then [' '] else []) ++ more, c)
  else .ok (run, c)

def isOrdinary (c : Char) : Bool := !(c == '\x27' || c == '\x22' || c == '\\' || isGap c)

/-- Everything up to a space, a break or the closing quote. Each round takes a run and what ends it. -/
def solid (double : Bool) (start : Mark) : Nat → Cursor → Except Refusal (Text × Cursor)
  | 0, c => .ok ([], c)
  | rounds + 1, c => do
    let (run, c) := c.span isOrdinary
    let ch := c.peek
    if !double && ch == '\x27' && c.peekAt 1 == '\x27' then
      let (more, c) ← solid double start rounds (c.skip 2)
      return (run ++ '\x27' :: more, c)
    else if (double && ch == '\x27') || (!double && (ch == '\x22' || ch == '\\')) then
      let (more, c) ← solid double start rounds c.next
      return (run ++ ch :: more, c)
    else if double && ch == '\\' then
      let c := c.next
      let letter := c.peek
      match escaped? letter, codeLength? letter with
      | some meant, _ =>
        let (more, c) ← solid double start rounds c.next
        return (run ++ meant :: more, c)
      | none, some n =>
        let (meant, c) ← codeEscape start n c.next
        let (more, c) ← solid double start rounds c
        return (run ++ meant :: more, c)
      | none, none =>
        if isBreak letter then
          let c := c.lineBreak.2
          let (blank, c) ← breaks start (c.rest.length + 1) c
          let (more, c) ← solid double start rounds c
          return (run ++ blank ++ more, c)
        else
          badToken doubleActivity start
            ("found unknown escape character " ++ quoted letter.toString) c.mark
    else return (run, c)

/-- Runs and the spaces between them, up to the closing quote. -/
def body (double : Bool) (start : Mark) : Nat → Cursor → Except Refusal (Text × Cursor)
  | 0, c => .ok ([], c)
  | rounds + 1, c => do
    let (run, c) ← solid double start (c.rest.length + 1) c
    if c.peek == (if double then '\x22' else '\x27') then return (run, c)
    else
      let (gap, c) ← spaces start c
      let (more, c) ← body double start rounds c
      return (run ++ gap ++ more, c)

def scan (double : Bool) (c : Cursor) : Except Refusal (Text × Cursor) := do
  let (t, after) ← body double c.mark (c.rest.length + 1) c.next
  return (t, after.next)

end QuotedScalar

end Yaml

end TemplateGuard
