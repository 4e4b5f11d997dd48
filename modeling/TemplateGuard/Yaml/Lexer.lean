import TemplateGuard.Table
import TemplateGuard.Yaml.Lexeme.Block
import TemplateGuard.Yaml.Lexeme.Plain
import TemplateGuard.Yaml.Token

namespace TemplateGuard

namespace Yaml

/-- A place where a key may have begun: the number of the token there, and whether nothing but a key
may stand there. -/
structure PossibleKey where
  number : Nat
  required : Bool
  mark : Mark
  deriving DecidableEq, Repr

/-- Tokens read so far, the last one first, and what decides how to go on: the depth of brackets, the
columns of the open blocks, and where keys may be. -/
structure Lexer where
  cursor : Cursor
  flow : Nat := 0
  newest : List Token := []
  count : Nat := 0
  indent : Int := -1
  outer : List Int := []
  keyAllowed : Bool := true
  keys : Table Nat PossibleKey := []
  finished : Bool := false

namespace Lexer

/-- The most characters of a key. -/
def maxKey : Nat := 1024

def mark (l : Lexer) : Mark := l.cursor.mark

def emit (kind : TokenKind) (start stop : Mark) (l : Lexer) : Lexer :=
  { l with newest := ⟨kind, start, stop⟩ :: l.newest, count := l.count + 1 }

def insert (number : Nat) (token : Token) (l : Lexer) : Lexer :=
  let after := l.count - number
  { l with newest := l.newest.take after ++ token :: l.newest.drop after, count := l.count + 1 }

def noColon {α : Type} (k : PossibleKey) (l : Lexer) : Except Refusal α :=
  badToken "while scanning a simple key" k.mark "could not find expected ':'" l.mark

/-- Forgets the possible keys of which no colon can be found any more. -/
def dropStale (l : Lexer) : Except Refusal Lexer :=
  let isStale (k : PossibleKey) : Bool :=
    k.mark.line != l.mark.line || decide (maxKey < l.mark.index - k.mark.index)
  match List.find? (fun (_, k) => isStale k && k.required) l.keys with
  | some (_, k) => noColon k l
  | none => .ok { l with keys := l.keys.filter fun (_, k) => !isStale k }

/-- Forgets the possible key at this depth of brackets. -/
def dropKey (l : Lexer) : Except Refusal Lexer :=
  match Table.find? l.keys l.flow with
  | none => .ok l
  | some k =>
    if k.required then noColon k l
    else .ok { l with keys := l.keys.filter fun (flow, _) => flow != l.flow }

/-- Remembers that a key may begin here. -/
def saveKey (l : Lexer) : Except Refusal Lexer :=
  if l.keyAllowed then do
    let required := l.flow == 0 && l.indent == l.mark.column
    let l ← l.dropKey
    return { l with keys := Table.put l.keys l.flow ⟨l.count, required, l.mark⟩ }
  else .ok l

/-- Ends the blocks that are indented more than `column`. -/
def unwindFrom (column : Int) : List Int → Lexer → Lexer
  | [], l => l
  | outside :: outer, l =>
    if column < l.indent then
      unwindFrom column outer ({ l with indent := outside, outer := outer }.emit .blockEnd l.mark l.mark)
    else l

/-- Ends the blocks that are indented more than `column`; inside brackets indentation is free. -/
def unwind (column : Int) (l : Lexer) : Lexer :=
  if l.flow == 0 then unwindFrom column l.outer l else l

/-- Opens a block at a column that is to the right of the block around it, by putting a token before
the one with this number. -/
def openBlock (kind : TokenKind) (place : Mark) (number : Nat) (l : Lexer) : Lexer :=
  if l.indent < place.column then
    { l with outer := l.indent :: l.outer, indent := place.column }.insert number
      ⟨kind, place, place⟩
  else l

def symbol (kind : TokenKind) (n : Nat) (l : Lexer) : Lexer :=
  let after := l.cursor.skip n
  { l with cursor := after }.emit kind l.mark after.mark

def misplaced {α : Type} (what : String) (l : Lexer) : Except Refusal α :=
  .error (.located { step := .tokens, what := what ++ " are not allowed here", mark := l.mark })

def streamEnd (l : Lexer) : Except Refusal Lexer := do
  let l ← (l.unwind (-1)).dropKey
  return { l.emit .streamEnd l.mark l.mark with keyAllowed := false, keys := [], finished := true }

def directive (l : Lexer) : Except Refusal Lexer := do
  let l ← (l.unwind (-1)).dropKey
  let (d, stop, after) ← Directive.scan l.cursor
  return { l with cursor := after, keyAllowed := false }.emit (.directive d) l.mark stop

def separator (kind : TokenKind) (l : Lexer) : Except Refusal Lexer := do
  let l ← (l.unwind (-1)).dropKey
  return { l with keyAllowed := false }.symbol kind 3

def openBracket (kind : TokenKind) (l : Lexer) : Except Refusal Lexer := do
  let l ← l.saveKey
  return { l with flow := l.flow + 1, keyAllowed := true }.symbol kind 1

def closeBracket (kind : TokenKind) (l : Lexer) : Except Refusal Lexer := do
  let l ← l.dropKey
  return { l with flow := l.flow - 1, keyAllowed := false }.symbol kind 1

def comma (l : Lexer) : Except Refusal Lexer := do
  let l ← l.dropKey
  return { l with keyAllowed := true }.symbol .comma 1

def entry (l : Lexer) : Except Refusal Lexer := do
  if l.flow == 0 && !l.keyAllowed then misplaced "sequence entries" l
  let l := if l.flow == 0 then l.openBlock .blockSequence l.mark l.count else l
  let l ← l.dropKey
  return { l with keyAllowed := true }.symbol .entry 1

def markedKey (l : Lexer) : Except Refusal Lexer := do
  if l.flow == 0 && !l.keyAllowed then misplaced "mapping keys" l
  let l := if l.flow == 0 then l.openBlock .blockMapping l.mark l.count else l
  let l ← l.dropKey
  return { l with keyAllowed := l.flow == 0 }.symbol .key 1

/-- The colon of a value: after a possible key, which is one then, or on its own. -/
def value (l : Lexer) : Except Refusal Lexer := do
  match Table.find? l.keys l.flow with
  | some k =>
    let l := { l with keys := l.keys.filter fun (flow, _) => flow != l.flow }
    let l := l.insert k.number ⟨.key, k.mark, k.mark⟩
    let l := if l.flow == 0 then l.openBlock .blockMapping k.mark k.number else l
    return { l with keyAllowed := false }.symbol .value 1
  | none =>
    if l.flow == 0 && !l.keyAllowed then misplaced "mapping values" l
    let l := if l.flow == 0 then l.openBlock .blockMapping l.mark l.count else l
    let l ← l.dropKey
    return { l with keyAllowed := l.flow == 0 }.symbol .value 1

def reference (l : Lexer) : Except Refusal Lexer := do
  let l ← l.saveKey
  let (name, after) ← anchorName "while scanning an alias" l.cursor
  return { l with cursor := after, keyAllowed := false }.emit (.reference name) l.mark after.mark

def anchor (l : Lexer) : Except Refusal Lexer := do
  let l ← l.saveKey
  let (name, after) ← anchorName "while scanning an anchor" l.cursor
  return { l with cursor := after, keyAllowed := false }.emit (.anchor name) l.mark after.mark

def tag (l : Lexer) : Except Refusal Lexer := do
  let l ← l.saveKey
  let (t, after) ← Tag.scan l.cursor
  return { l with cursor := after, keyAllowed := false }.emit (.tag t) l.mark after.mark

def blockScalar (folded : Bool) (l : Lexer) : Except Refusal Lexer := do
  let l ← l.dropKey
  let (t, stop, after) ← BlockScalar.scan folded (l.indent + 1).toNat l.cursor
  return { l with cursor := after, keyAllowed := true }.emit (.scalar t false) l.mark stop

def quotedScalar (double : Bool) (l : Lexer) : Except Refusal Lexer := do
  let l ← l.saveKey
  let (t, after) ← QuotedScalar.scan double l.cursor
  return { l with cursor := after, keyAllowed := false }.emit (.scalar t false) l.mark after.mark

def plainScalar (l : Lexer) : Except Refusal Lexer := do
  let l ← l.saveKey
  let r := PlainScalar.scan (l.flow != 0) (l.indent + 1).toNat l.cursor
  return { l with cursor := r.after, keyAllowed := r.broken }.emit (.scalar r.text true) l.mark r.stop

/-- Past spaces, comments and line breaks. Outside of brackets a key may follow a line break. Each
round takes a line. -/
def skipLines (flow : Nat) : Nat → Bool → Cursor → Bool × Cursor
  | 0, keyAllowed, c => (keyAllowed, c)
  | rounds + 1, keyAllowed, c =>
    let c := (c.skipWhile (· == ' ')).skipComment
    if isBreak c.peek then skipLines flow rounds (keyAllowed || flow == 0) c.lineBreak.2
    else (keyAllowed, c)

/-- To the start of the next token. A byte order mark may only start the whole text. -/
def approach (l : Lexer) : Lexer :=
  let c := if l.mark.index == 0 && l.cursor.peek == '\uFEFF' then l.cursor.next else l.cursor
  let (keyAllowed, c) := skipLines l.flow (c.rest.length + 1) l.keyAllowed c
  { l with cursor := c, keyAllowed := keyAllowed }

/-- The characters that a plain scalar cannot start with. -/
def isIndicator (c : Char) : Bool :=
  isGap c || "-?:,[]\x7b\x7d#&*!|>'\"%@\x60".toList.contains c

/-- Whether a plain scalar starts here: three of the marks are plain if no gap follows them. -/
def startsPlain (l : Lexer) : Bool :=
  let ch := l.cursor.peek
  !isIndicator ch || (!isGap (l.cursor.peekAt 1) &&
    (ch == '-' || (l.flow == 0 && (ch == '?' || ch == ':'))))

def token (l : Lexer) : Except Refusal Lexer :=
  let c := l.cursor
  let ch := c.peek
  let alone := isGap (c.peekAt 1)
  let inFlow := l.flow != 0
  if ch == ending then l.streamEnd
  else if ch == '%' && c.mark.column == 0 then l.directive
  else if c.mark.column == 0 && c.atTriple '-' then l.separator .documentStart
  else if c.mark.column == 0 && c.atTriple '.' then l.separator .documentEnd
  else if ch == '[' then l.openBracket .openList
  else if ch == '{' then l.openBracket .openMap
  else if ch == ']' then l.closeBracket .closeList
  else if ch == '}' then l.closeBracket .closeMap
  else if ch == ',' then l.comma
  else if ch == '-' && alone then l.entry
  else if ch == '?' && (inFlow || alone) then l.markedKey
  else if ch == ':' && (inFlow || alone) then l.value
  else if ch == '*' then l.reference
  else if ch == '&' then l.anchor
  else if ch == '!' then l.tag
  else if ch == '|' && !inFlow then l.blockScalar false
  else if ch == '>' && !inFlow then l.blockScalar true
  else if ch == '\x27' then l.quotedScalar false
  else if ch == '\x22' then l.quotedScalar true
  else if l.startsPlain then l.plainScalar
  else
    .error (.located {
      step := .tokens
      activity := some "while scanning for the next token"
      what := "found character " ++ quoted ch.toString ++ " that cannot start any token"
      mark := c.mark })

def advance (l : Lexer) : Except Refusal Lexer := do
  let l ← l.approach.dropStale
  (l.unwind l.mark.column).token

/-- How many tokens are final: nothing is put in any more before the first possible key. -/
def settled (l : Lexer) : Nat := l.keys.foldl (fun n (_, k) => min n k.number) l.count

end Lexer

/-- The tokens of a text; if it is refused somewhere, those that are final before that, and why. -/
structure Tokens where
  list : List Token
  refusal : Option Refusal

namespace Tokens

/-- Reads token after token. Each round reads one. -/
def collect : Nat → Nat → Lexer → Tokens
  | 0, _, l => ⟨l.newest.reverse, none⟩
  | rounds + 1, final, l =>
    if l.finished then ⟨l.newest.reverse, none⟩
    else
      match l.dropStale with
      | .error r => ⟨l.newest.reverse.take final, some r⟩
      | .ok l =>
        let final := l.settled
        match l.advance with
        | .error r => ⟨l.newest.reverse.take final, some r⟩
        | .ok next => collect rounds final next

def ofText (t : Text) : Tokens := collect (t.length + 2) 0 { cursor := ⟨t, {}⟩ }

end Tokens

end Yaml

end TemplateGuard
