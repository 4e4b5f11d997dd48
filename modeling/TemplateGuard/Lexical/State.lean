import TemplateGuard.Text.Blank

namespace TemplateGuard

/-- The lexical region an offset falls in. -/
inductive Context where
  | plain
  | string
  | templateText
  | templateExpr
  | comment
  deriving DecidableEq, Repr

namespace Context

def name : Context → String
  | .plain => "plain"
  | .string => "in_string"
  | .templateText => "in_template_text"
  | .templateExpr => "in_template_expr"
  | .comment => "in_comment"

/-- String data of the host language, in quotes or in the text of a template literal. -/
def isProtected : Context → Bool
  | .string => true
  | .templateText => true
  | _ => false

/-- Code, where a comment may stand: outside everything or in a substitution. -/
def isCode : Context → Bool
  | .plain => true
  | .templateExpr => true
  | _ => false

end Context

/-- What is being read, template literals apart. -/
inductive Region where
  | code
  | singleQuote
  | doubleQuote
  | lineComment
  | blockComment
  deriving DecidableEq, Repr

/-- The region and the open template literals, innermost first. A literal is recorded by the number
of braces open in its current substitution; zero means that its own text is being read. -/
structure LexState where
  region : Region := .code
  literals : List Int := []
  deriving DecidableEq, Repr

/-- A line comment ends at any of the four line terminators. -/
def isLineEnd (c : Char) : Bool :=
  c == '\n' || c == '\r' || c == '\u2028' || c == '\u2029'

namespace LexState

def context (s : LexState) : Context :=
  match s.region, s.literals with
  | .lineComment, _ => .comment
  | .blockComment, _ => .comment
  | .singleQuote, _ => .string
  | .doubleQuote, _ => .string
  | .code, [] => .plain
  | .code, 0 :: _ => .templateText
  | .code, _ :: _ => .templateExpr

def inLiteral (s : LexState) : Bool := !s.literals.isEmpty

/-- The braces open in the innermost literal's substitution. -/
def depth (s : LexState) : Int := s.literals.headD 0

/-- The depths of the enclosing literals, outermost first. -/
def enclosing (s : LexState) : List Int := s.literals.tail.reverse

/-- The state after a token, and whether the token had two characters. -/
structure Step where
  state : LexState
  wide : Bool

/-- Between quotes only a backslash, which hides the next character, and the same quote matter. -/
def stepQuoted (s : LexState) (quote c : Char) (next : Option Char) : Step :=
  if c = '\\' then ⟨s, next.isSome⟩
  else ⟨if c = quote then { s with region := .code } else s, false⟩

/-- In the text of a literal inside `outer`, only escapes, the start of a substitution and the
closing backtick matter. -/
def stepText (s : LexState) (outer : List Int) (c : Char) (next : Option Char) : Step :=
  if c = '\\' then ⟨s, next.isSome⟩
  else if c = '$' ∧ next = some '{' then ⟨{ s with literals := 1 :: outer }, true⟩
  else ⟨if c = '\x60' then { s with literals := outer } else s, false⟩

/-- Adds to the open braces of the innermost literal; outside literals braces are not counted. -/
def addDepth (s : LexState) (n : Int) : LexState :=
  match s.literals with
  | [] => s
  | d :: outer => { s with literals := (d + n) :: outer }

/-- In code, comments and quotes open, a backtick opens a literal and braces are counted. -/
def stepCode (s : LexState) (c : Char) (next : Option Char) : Step :=
  if c = '/' ∧ next = some '/' then ⟨{ s with region := .lineComment }, true⟩
  else if c = '/' ∧ next = some '*' then ⟨{ s with region := .blockComment }, true⟩
  else if c = '\x27' then ⟨{ s with region := .singleQuote }, false⟩
  else if c = '\x22' then ⟨{ s with region := .doubleQuote }, false⟩
  else if c = '\x60' then ⟨{ s with literals := 0 :: s.literals }, false⟩
  else if c = '{' then ⟨s.addDepth 1, false⟩
  else if c = '}' then ⟨s.addDepth (-1), false⟩
  else ⟨s, false⟩

/-- Reads the token that starts with `c`; `next` is the character after it, if there is one. -/
def step (s : LexState) (c : Char) (next : Option Char) : Step :=
  match s.region with
  | .lineComment => ⟨if isLineEnd c then { s with region := .code } else s, false⟩
  | .blockComment =>
    if c = '*' ∧ next = some '/' then ⟨{ s with region := .code }, true⟩ else ⟨s, false⟩
  | .singleQuote => s.stepQuoted '\x27' c next
  | .doubleQuote => s.stepQuoted '\x22' c next
  | .code =>
    match s.literals with
    | 0 :: outer => s.stepText outer c next
    | _ => s.stepCode c next

/-- Whether the text starts with a two-character token: an escape pair, the start of a
substitution, or a comment delimiter, as the region has it. -/
def atPair (s : LexState) : Text → Bool
  | c :: next :: _ =>
    match s.region, s.literals with
    | .lineComment, _ => false
    | .blockComment, _ => c == '*' && next == '/'
    | .singleQuote, _ => c == '\\'
    | .doubleQuote, _ => c == '\\'
    | .code, 0 :: _ => c == '\\' || (c == '$' && next == '{')
    | .code, _ => c == '/' && (next == '/' || next == '*')
  | _ => false

/-- Reads at most `n` characters, token by token; a two-character token that would cross the end is
left unread. Gives the state reached and the number of characters read. -/
def read : LexState → Nat → Text → LexState × Nat
  | s, n + 1, c :: rest =>
    if n = 0 ∧ s.atPair (c :: rest) then (s, 0)
    else
      let token := s.step c rest.head?
      if token.wide then
        match n, rest with
        | m + 1, _ :: rest' => let (t, k) := read token.state m rest'; (t, k + 2)
        | _, _ => (token.state, 2)
      else
        let (t, k) := read token.state n rest
        (t, k + 1)
  | s, _, _ => (s, 0)

end LexState

end TemplateGuard
