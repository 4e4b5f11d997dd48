import TemplateGuard.Json.Data
import TemplateGuard.Number.Numeral

namespace TemplateGuard

namespace Json

inductive Problem where
  | value
  | comma
  | colon
  | property
  | extra
  | unterminated
  | control
  | escape
  | codePoint
  | byteOrderMark
  | tooLong (count : Nat)
  | deepList
  | deepMap
  deriving DecidableEq, Repr

def Problem.message : Problem → String
  | .value => "Expecting value"
  | .comma => "Expecting ',' delimiter"
  | .colon => "Expecting ':' delimiter"
  | .property => "Expecting property name enclosed in double quotes"
  | .extra => "Extra data"
  | .unterminated => "Unterminated string starting at"
  | .control => "Invalid control character at"
  | .escape => "Invalid \\escape"
  | .codePoint => "Invalid \\uXXXX escape"
  | .byteOrderMark => "Unexpected UTF-8 BOM (decode using utf-8-sig)"
  | .tooLong count => Numeral.tooLongMessage count
  | .deepList => " while decoding a JSON array from a unicode string"
  | .deepMap => " while decoding a JSON object from a unicode string"

/-- A problem and the rest of the text from the place it is reported at. -/
structure Stuck where
  problem : Problem
  rest : Text
  deriving DecidableEq, Repr

/-- The place of a problem in words: line and column count from one, characters from zero. -/
def Stuck.message (t : Text) (s : Stuck) : String :=
  let offset := t.length - s.rest.length
  let before := t.take offset
  let line := before.count '\n' + 1
  let column := (before.reverse.takeWhile (· != '\n')).length + 1
  s.problem.message ++ ": line " ++ toString line ++ " column " ++ toString column ++
    " (char " ++ toString offset ++ ")"

/-- The fault of a problem. A place is only given for what is wrong at one place. -/
def Stuck.fault (t : Text) (s : Stuck) : Fault :=
  match s.problem with
  | .tooLong _ => .malformed s.problem.message
  | .deepList => .tooDeep s.problem.message
  | .deepMap => .tooDeep s.problem.message
  | _ => .malformed (s.message t)

def isSpace (c : Char) : Bool := c == ' ' || c == '\t' || c == '\n' || c == '\r'

def skipSpace (t : Text) : Text := t.dropWhile isSpace

def hex4? : Text → Option Nat
  | [a, b, c, d] => do
    let a ← hexValue? a
    let b ← hexValue? b
    let c ← hexValue? c
    let d ← hexValue? d
    return ((a * 16 + b) * 16 + c) * 16 + d
  | _ => none

def escaped? : Char → Option Char
  | '\x22' => some '\x22'
  | '\\' => some '\\'
  | '/' => some '/'
  | 'b' => some '\x08'
  | 'f' => some '\x0c'
  | 'n' => some '\n'
  | 'r' => some '\r'
  | 't' => some '\t'
  | _ => none

/-- The escape after a backslash and the letter u, `t` being the text from that letter on. Two
halves of a pair make one character, and any other half stands alone. The digits may not end the
text. -/
def unicodeEscape (t : Text) : Except Stuck (Letter × Text) :=
  let body := t.drop 1
  match hex4? (body.take 4), decide (4 < body.length) with
  | some n, true =>
    let rest := body.drop 4
    if Surrogate.isHigh n && decide (6 < rest.length) && ['\\', 'u'].isPrefixOf rest then
      match hex4? ((rest.drop 2).take 4) with
      | none => .error ⟨.codePoint, rest.drop 1⟩
      | some low =>
        if Surrogate.isLow low then
          .ok (.char (Surrogate.join n low), rest.drop 6)
        else .ok (.ofUnit n, rest)
    else .ok (.ofUnit n, rest)
  | _, _ => .error ⟨.codePoint, t⟩

/-- The letters of a string up to its closing quote; `whole` is the text from the opening quote
on, where a missing end is reported. Each round reads one character or escape, so as many rounds as
there are characters suffice. -/
def stringBody (whole : Text) : Nat → Text → Except Stuck (LooseText × Text)
  | 0, _ => .error ⟨.unterminated, whole⟩
  | _ + 1, [] => .error ⟨.unterminated, whole⟩
  | rounds + 1, c :: rest =>
    if c = '\x22' then .ok ([], rest)
    else if c = '\\' then
      match rest with
      | [] => .error ⟨.unterminated, whole⟩
      | 'u' :: _ => do
        let (l, after) ← unicodeEscape rest
        let (s, after) ← stringBody whole rounds after
        return (l :: s, after)
      | e :: after =>
        match escaped? e with
        | none => .error ⟨.escape, c :: rest⟩
        | some d => do
          let (s, after) ← stringBody whole rounds after
          return (.char d :: s, after)
    else if c.toNat < 0x20 then .error ⟨.control, c :: rest⟩
    else do
      let (s, after) ← stringBody whole rounds rest
      return (.char c :: s, after)

def string (whole : Text) : Except Stuck (LooseText × Text) :=
  stringBody whole whole.length (whole.drop 1)

def isDigit (c : Char) : Bool := '0' ≤ c && c ≤ '9'

def ofDigits (t : Text) : Nat := t.foldl (fun n c => n * 10 + (c.toNat - '0'.toNat)) 0

/-- The digits after a point, if a digit follows it. -/
def fraction : Text → Text × Text
  | '.' :: c :: rest =>
    if isDigit c then ((c :: rest).takeWhile isDigit, (c :: rest).dropWhile isDigit)
    else ([], '.' :: c :: rest)
  | t => ([], t)

/-- The exponent, if digits follow its mark and sign. -/
def exponent? : Text → Option (Int × Text)
  | c :: rest =>
    if c = 'e' ∨ c = 'E' then
      let (negative, digits) : Bool × Text := match rest with
        | '-' :: ds => (true, ds)
        | '+' :: ds => (false, ds)
        | ds => (false, ds)
      let run := digits.takeWhile isDigit
      if run.isEmpty then none
      else
        let n : Int := ofDigits run
        some (if negative then -n else n, digits.dropWhile isDigit)
    else none
  | [] => none

/-- A number: a whole part without leading zeros, then perhaps a fraction and an exponent. What
does not complete one of these is left for what follows. -/
def number (t : Text) : Except Stuck (Data × Text) :=
  let (negative, body) : Bool × Text := match t with
    | '-' :: rest => (true, rest)
    | rest => (false, rest)
  match body with
  | [] => .error ⟨.value, t⟩
  | c :: rest =>
    if !isDigit c then .error ⟨.value, t⟩
    else
      let whole := if c = '0' then ['0'] else body.takeWhile isDigit
      let rest := if c = '0' then rest else body.dropWhile isDigit
      let (places, rest) := fraction rest
      let digits := ofDigits (whole ++ places)
      match exponent? rest with
      | some (e, rest) =>
        .ok (.float (Double.ofDecimal negative digits (e - places.length)), rest)
      | none =>
        if places.isEmpty then
          if Numeral.maxDigits < whole.length then .error ⟨.tooLong whole.length, t⟩
          else .ok (.int (if negative then -(digits : Int) else digits), rest)
        else .ok (.float (Double.ofDecimal negative digits (-places.length)), rest)

def literals : List (String × Data) :=
  [("null", .null), ("true", .bool true), ("false", .bool false), ("NaN", .float (.nan true)),
   ("Infinity", .float (.infinite false)), ("-Infinity", .float (.infinite true))]

def plain (t : Text) : Except Stuck (Data × Text) :=
  match literals.find? fun (name, _) => name.toList.isPrefixOf t with
  | some (name, v) => .ok (v, t.drop name.length)
  | none => number t

/-- How many brackets may be open at once. -/
def maxDepth : Nat := 988

mutual

/-- A value at the head of a text inside `depth` open brackets. Every round takes a character, so as
many rounds as there are characters suffice. -/
def value : Nat → Nat → Text → Except Stuck (Data × Text)
  | 0, _, t => .error ⟨.value, t⟩
  | rounds + 1, depth, t =>
    match t with
    | '\x22' :: _ => do
      let (s, rest) ← string t
      return (.str s, rest)
    | '[' :: rest =>
      if maxDepth ≤ depth then .error ⟨.deepList, t⟩
      else
        match skipSpace rest with
        | ']' :: after => .ok (.list [], after)
        | start => do
          let (vs, after) ← items rounds (depth + 1) start
          return (.list vs, after)
    | '{' :: rest =>
      if maxDepth ≤ depth then .error ⟨.deepMap, t⟩
      else
        match skipSpace rest with
        | '}' :: after => .ok (.map [], after)
        | start => do
          let (es, after) ← members rounds (depth + 1) start
          return (.map (Table.ofPairs es), after)
    | _ => plain t

def items : Nat → Nat → Text → Except Stuck (List Data × Text)
  | 0, _, t => .error ⟨.value, t⟩
  | rounds + 1, depth, t => do
    let (v, rest) ← value rounds depth t
    match skipSpace rest with
    | ']' :: after => return ([v], after)
    | ',' :: after =>
      let (vs, after) ← items rounds depth (skipSpace after)
      return (v :: vs, after)
    | other => .error ⟨.comma, other⟩

def members : Nat → Nat → Text → Except Stuck (List (LooseText × Data) × Text)
  | 0, _, t => .error ⟨.property, t⟩
  | rounds + 1, depth, t =>
    match t with
    | '\x22' :: _ => do
      let (k, rest) ← string t
      match skipSpace rest with
      | ':' :: start =>
        let (v, rest) ← value rounds depth (skipSpace start)
        match skipSpace rest with
        | '}' :: after => return ([(k, v)], after)
        | ',' :: after =>
          let (es, after) ← members rounds depth (skipSpace after)
          return ((k, v) :: es, after)
        | other => .error ⟨.comma, other⟩
      | other => .error ⟨.colon, other⟩
    | _ => .error ⟨.property, t⟩

end

def document (t : Text) : Except Stuck Data := do
  if t.head? = some '\uFEFF' then throw ⟨.byteOrderMark, t⟩
  let (v, rest) ← value (2 * t.length + 2) 0 (skipSpace t)
  match skipSpace rest with
  | [] => return v
  | more => throw ⟨.extra, more⟩

def read (t : Text) : Except Fault Data :=
  match document t with
  | .ok v => .ok v
  | .error s => .error (s.fault t)

end Json

end TemplateGuard
