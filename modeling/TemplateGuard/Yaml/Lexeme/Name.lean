import TemplateGuard.Number.Numeral
import TemplateGuard.Text.Utf8
import TemplateGuard.Yaml.Lexeme.Quoted

namespace TemplateGuard

namespace Yaml

def isWordChar (c : Char) : Bool := c.isAlphanum || c == '-' || c == '_'

/-- A tag as it is written: a handle that stands for a longer text, and what follows it. -/
structure WrittenTag where
  handle : Option String
  suffix : String
  deriving DecidableEq, Repr

/-- A directive; those with other names say nothing. -/
inductive Directive where
  | version (major : Nat)
  | handle (name meaning : String)
  | other
  deriving DecidableEq, Repr

def anchorName (activity : String) (c : Cursor) : Except Refusal (String × Cursor) :=
  let start := c.mark
  let (name, c) := c.next.span isWordChar
  if !name.isEmpty &&
      (isGap c.peek || ['?', ':', ',', ']', '}', '%', '@', '\x60'].contains c.peek) then
    .ok (String.ofList name, c)
  else badToken activity start (butFound "alphabetic or numeric character" c.peek) c.mark

namespace Tag

/-- A handle: an exclamation mark, or a word between two of them. -/
def handle (noun : String) (start : Mark) (c : Cursor) : Except Refusal (String × Cursor) :=
  let activity := "while scanning a " ++ noun
  if c.peek != '!' then badToken activity start (butFound "'!'" c.peek) c.mark
  else if c.peekAt 1 == ' ' then .ok ("!", c.next)
  else
    let (word, after) := c.next.span isWordChar
    if after.peek == '!' then .ok (String.ofList ('!' :: word ++ ['!']), after.next)
    else badToken activity start (butFound "'!'" after.peek) after.mark

def isAddressChar (c : Char) : Bool :=
  c.isAlphanum || "-;/?:@&=+$,_.!~*'()[]".toList.contains c

/-- Bytes written as pairs of hexadecimal digits after percent signs. Each round takes one. -/
def escapes (noun : String) (start : Mark) : Nat → Cursor → Except Refusal (List UInt8 × Cursor)
  | 0, c => .ok ([], c)
  | rounds + 1, c =>
    if c.peek != '%' then .ok ([], c)
    else
      let c := c.next
      match QuotedScalar.hexNumber c 2 with
      | .error found =>
        badToken ("while scanning a " ++ noun) start
          (butFound "URI escape sequence of 2 hexadecimal numbers" found) c.mark
      | .ok n => do
        let (more, c) ← escapes noun start rounds (c.skip 2)
        return (n.toUInt8 :: more, c)

def decoded (noun : String) (start : Mark) (bytes : List UInt8) (mark : Mark) :
    Except Refusal Text :=
  match Utf8.decode bytes with
  | .ok t => .ok t
  | .error flaw => badToken ("while scanning a " ++ noun) start flaw.message mark

/-- Characters of an address and escapes among them. Each round takes a run of one kind. -/
def addressParts (noun : String) (start : Mark) : Nat → Cursor → Except Refusal (Text × Cursor)
  | 0, c => .ok ([], c)
  | rounds + 1, c => do
    let (run, c) := c.span isAddressChar
    if c.peek == '%' then
      let (bytes, after) ← escapes noun start (c.rest.length + 1) c
      let t ← decoded noun start bytes c.mark
      let (more, after) ← addressParts noun start rounds after
      return (run ++ t ++ more, after)
    else return (run, c)

def address (noun : String) (start : Mark) (c : Cursor) : Except Refusal (String × Cursor) :=
  if isAddressChar c.peek || c.peek == '%' then do
    let (t, c) ← addressParts noun start (c.rest.length + 1) c
    return (String.ofList t, c)
  else badToken ("while parsing a " ++ noun) start (butFound "URI" c.peek) c.mark

/-- Whether a second exclamation mark ends a handle before the next space. -/
def hasHandle (c : Cursor) : Bool :=
  (c.next.rest.takeWhile fun ch => !isSpaceOrEnd ch).contains '!'

/-- A tag from its exclamation mark on. -/
def scan (c : Cursor) : Except Refusal (WrittenTag × Cursor) := do
  let start := c.mark
  let second := c.peekAt 1
  let (tag, c) ←
    if second == '<' then do
      let (suffix, c) ← address "tag" start (c.skip 2)
      if c.peek != '>' then
        badToken "while parsing a tag" start (butFound "'>'" c.peek) c.mark
      else pure (⟨none, suffix⟩, c.next)
    else if isGap second then pure ((⟨none, "!"⟩ : WrittenTag), c.next)
    else do
      let (name, c) ← if hasHandle c then handle "tag" start c else pure ("!", c.next)
      let (suffix, c) ← address "tag" start c
      pure (⟨some name, suffix⟩, c)
  if isSpaceOrEnd c.peek then return (tag, c)
  else badToken "while scanning a tag" start (butFound "' '" c.peek) c.mark

end Tag

namespace Directive

def activity : String := "while scanning a directive"

def number (start : Mark) (c : Cursor) : Except Refusal (Nat × Cursor) :=
  let (run, after) := c.span Char.isDigit
  if run.isEmpty then badToken activity start (butFound "a digit" c.peek) c.mark
  else if Numeral.maxDigits < run.length then
    .error (.plain (.malformed (Numeral.tooLongMessage run.length)))
  else .ok (run.foldl (fun n d => n * 10 + (d.toNat - '0'.toNat)) 0, after)

/-- The version, of which only the first number matters. -/
def versionNumber (start : Mark) (c : Cursor) : Except Refusal (Directive × Cursor) := do
  let (major, c) ← number start (c.skipWhile (· == ' '))
  if c.peek != '.' then badToken activity start (butFound "a digit or '.'" c.peek) c.mark
  let (_, c) ← number start c.next
  if isSpaceOrEnd c.peek then return (.version major, c)
  else badToken activity start (butFound "a digit or ' '" c.peek) c.mark

def tagHandle (start : Mark) (c : Cursor) : Except Refusal (Directive × Cursor) := do
  let (name, c) ← Tag.handle "directive" start (c.skipWhile (· == ' '))
  if c.peek != ' ' then badToken activity start (butFound "' '" c.peek) c.mark
  let (meaning, c) ← Tag.address "directive" start (c.skipWhile (· == ' '))
  if isSpaceOrEnd c.peek then return (.handle name meaning, c)
  else badToken activity start (butFound "' '" c.peek) c.mark

def scan (c : Cursor) : Except Refusal (Directive × Mark × Cursor) := do
  let start := c.mark
  let (name, c) := c.next.span isWordChar
  if name.isEmpty || !isSpaceOrEnd c.peek then
    badToken activity start (butFound "alphabetic or numeric character" c.peek) c.mark
  let (d, stop, c) ←
    if name == "YAML".toList then do
      let (d, c) ← versionNumber start c
      pure (d, c.mark, c)
    else if name == "TAG".toList then do
      let (d, c) ← tagHandle start c
      pure (d, c.mark, c)
    else pure (Directive.other, c.mark, c.skipWhile fun ch => !isBreakOrEnd ch)
  let c := (c.skipWhile (· == ' ')).skipComment
  if isBreakOrEnd c.peek then return (d, stop, c.lineBreak.2)
  else badToken activity start (butFound "a comment or a line break" c.peek) c.mark

end Directive

end Yaml

end TemplateGuard
