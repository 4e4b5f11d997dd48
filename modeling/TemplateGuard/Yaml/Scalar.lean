import TemplateGuard.Text.Base64
import TemplateGuard.Text.Lower
import TemplateGuard.Value
import TemplateGuard.Yaml.Kind

namespace TemplateGuard

namespace Yaml

namespace Scalar

/-- The words for true; the other words of truth values are for false. -/
def trueWords : List String := ["yes", "true", "on"]

def falseWords : List String := ["no", "false", "off"]

def withoutLows (t : Text) : Text := t.filter (· != '_')

def bool (t : Text) : Except Fault Value :=
  let word := String.ofList t.lower
  if trueWords.contains word then .ok (.bool true)
  else if falseWords.contains word then .ok (.bool false)
  else .error (.missingKey word)

/-- How much of a quoted text is shown when it is no whole number. -/
def shownLength : Nat := 200

def notWhole (base : Nat) (t : Text) : Fault :=
  .malformed ("invalid literal for int() with base " ++ toString base ++ ": " ++
    String.ofList ((quoted (String.ofList t)).toList.take shownLength))

def inBase (base : Nat) (t : Text) : Except Fault Int :=
  match Numeral.int base t with
  | .ok n => .ok n
  | .error .malformed => .error (notWhole base t)
  | .error (.tooLong count) => .error (.malformed (Numeral.tooLongMessage count))

def natural (t : Text) : Except Fault Int :=
  match t with
  | [] => .error .noCharacter
  | ['0'] => .ok 0
  | '0' :: 'b' :: rest => inBase 2 rest
  | '0' :: 'x' :: rest => inBase 16 rest
  | '0' :: _ => inBase 8 t
  | _ =>
    if t.contains ':' then do
      return (← (t.splitOn ':').mapM (inBase 10)).foldl (fun acc part => acc * 60 + part) 0
    else inBase 10 t

def signed (t : Text) : Except Fault (Bool × Text) :=
  if t.isEmpty then .error .noCharacter else .ok (Numeral.sign t)

def int (t : Text) : Except Fault Value := do
  let (negative, body) ← signed (withoutLows t)
  let n ← natural body
  return .int (if negative then -n else n)

def part (t : Text) : Except Fault Double :=
  match Numeral.real? t with
  | some x => .ok x
  | none => .error (.badReal (quoted (String.ofList t)))

/-- The sum of parts that count sixties, the last of which counts ones; each product and each sum is
rounded. -/
def sixties : Nat → Double → List Double → Except Fault Double
  | _, sum, [] => .ok sum
  | base, sum, x :: rest =>
    match Double.ofInt? base with
    | none => .error .tooLarge
    | some unit => sixties (base * 60) (sum.add (x.mul unit)) rest

def positive (t : Text) : Except Fault Double :=
  if t == ".inf".toList then .ok (.infinite false)
  else if t.contains ':' then do
    sixties 1 (Double.zero false) (← (t.splitOn ':').mapM part).reverse
  else part t

def float (t : Text) : Except Fault Value := do
  let (negative, body) ← signed (withoutLows t).lower
  if body == ".nan".toList then return .float (.nan true)
  let x ← positive body
  return .float (if negative then x.neg else x)

def timestamp (t : Text) : Except Fault Value :=
  match Timestamp.parse? t.withoutBreak with
  | none => .error (.noMember Value.null.typeName "groupdict")
  | some m => m.check.map .moment

/-- A character by its code point, as messages about texts that are not ASCII have it. -/
def codeText (c : Char) : Text :=
  if c.toNat < 0x100 then ['\\', 'x'] ++ Quoted.hex 2 c.toNat
  else if c.toNat < 0x10000 then ['\\', 'u'] ++ Quoted.hex 4 c.toNat
  else ['\\', 'U'] ++ Quoted.hex 8 c.toNat

/-- What is said about the first characters that are not ASCII. -/
def notAscii? (t : Text) : Option String :=
  let isAscii (c : Char) : Bool := decide (c.toNat < 0x80)
  let start := (t.takeWhile isAscii).length
  let which := match (t.drop start).takeWhile fun c => !isAscii c with
    | [] => none
    | [c] => some ("character '" ++ String.ofList (codeText c) ++ "' in position " ++ toString start)
    | cs => some ("characters in position " ++ toString start ++ "-" ++
        toString (start + cs.length - 1))
  which.map fun w => "'ascii' codec can't encode " ++ w ++ ": ordinal not in range(128)"

def binary (t : Text) : Except String Value :=
  match notAscii? t with
  | some flaw => .error ("failed to convert base64 data into ascii: " ++ flaw)
  | none =>
    match Base64.decode t with
    | .ok bs => .ok (.bytes bs)
    | .error flaw => .error ("failed to decode base64 data: " ++ flaw.message)

/-- How a scalar is read, for the kinds of scalars whose faults have no place. -/
def reader? : Kind → Option (Text → Except Fault Value)
  | .null => some fun _ => .ok .null
  | .bool => some bool
  | .int => some int
  | .float => some float
  | .timestamp => some timestamp
  | .str => some fun t => .ok (.str (String.ofList t))
  | _ => none

end Scalar

end Yaml

end TemplateGuard
