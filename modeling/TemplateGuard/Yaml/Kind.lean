import TemplateGuard.Text.Cut
import TemplateGuard.Yaml.Timestamp

namespace TemplateGuard

namespace Yaml

inductive Kind where
  | null
  | bool
  | int
  | float
  | timestamp
  | binary
  | str
  | list
  | orderedMap
  | pairs
  | map
  | set
  | merge
  | default
  | other (tag : String)
  deriving DecidableEq, Repr

namespace Kind

/-- What the tags of the common kinds start with. -/
def family : String := "tag:yaml.org,2002:"

def common : List (String × Kind) :=
  [("null", .null), ("bool", .bool), ("int", .int), ("float", .float), ("timestamp", .timestamp),
   ("binary", .binary), ("str", .str), ("seq", .list), ("omap", .orderedMap), ("pairs", .pairs),
   ("map", .map), ("set", .set), ("merge", .merge), ("value", .default)]

def ofTag (tag : String) : Kind :=
  ((common.find? fun (name, _) => family ++ name == tag).map Prod.snd).getD (.other tag)

def tag : Kind → String
  | .other t => t
  | k => family ++ ((common.find? fun (_, kind) => kind == k).map Prod.fst).getD ""

def nullWords : List String := ["", "~", "null", "Null", "NULL"]

def boolWords : List String :=
  ["yes", "Yes", "YES", "no", "No", "NO", "true", "True", "TRUE", "false", "False", "FALSE",
   "on", "On", "ON", "off", "Off", "OFF"]

def specialWords : List String :=
  [".inf", ".Inf", ".INF", "+.inf", "+.Inf", "+.INF", "-.inf", "-.Inf", "-.INF",
   ".nan", ".NaN", ".NAN"]

/-- What follows a sign, or all of it. -/
def unsigned : Text → Text
  | '-' :: rest => rest
  | '+' :: rest => rest
  | t => t

/-- Digits with underscores among or after them. -/
def isNumeral : Text → Bool
  | c :: rest => c.isDigit && rest.all fun d => d.isDigit || d == '_'
  | [] => false

/-- One or two digits below sixty. -/
def isSixtieth : Text → Bool
  | [a] => a.isDigit
  | [a, b] => '0' ≤ a && a ≤ '5' && b.isDigit
  | _ => false

/-- A number and at least one count of sixtieths after it. -/
def isSexagesimal (t : Text) : Bool :=
  match t.splitOn ':' with
  | whole :: part :: parts => isNumeral whole && (part :: parts).all isSixtieth
  | _ => false

/-- An exponent, which always has a sign. -/
def isExponent : Text → Bool
  | [] => true
  | c :: sign :: rest =>
    (c == 'e' || c == 'E') && (sign == '+' || sign == '-') && !rest.isEmpty && rest.all Char.isDigit
  | _ => false

/-- A real number: it has a point, and before it digits or counts of sixtieths. One that starts with
the point has no sign. -/
def isReal (t : Text) : Bool :=
  let split (u : Text) : Text × Text := (u.takeWhile (· != '.'), (u.dropWhile (· != '.')).drop 1)
  let isLow (c : Char) : Bool := c.isDigit || c == '_'
  match t with
  | '.' :: rest => isNumeral (rest.takeWhile isLow) && isExponent (rest.dropWhile isLow)
  | _ =>
    let (whole, places) := split (unsigned t)
    t.contains '.' &&
      ((isNumeral whole && isExponent (places.dropWhile isLow)) ||
        (isSexagesimal whole && places.all isLow))

/-- Digits of one base and underscores, one of them at least. -/
def isRun (isDigit : Char → Bool) (t : Text) : Bool :=
  !t.isEmpty && t.all fun c => isDigit c || c == '_'

def isHexDigit (c : Char) : Bool :=
  c.isDigit || ('a' ≤ c && c ≤ 'f') || ('A' ≤ c && c ≤ 'F')

/-- A whole number: binary, octal after a zero, hexadecimal, decimal or counting sixties. -/
def isWhole (t : Text) : Bool :=
  match unsigned t with
  | ['0'] => true
  | '0' :: 'b' :: rest => isRun (fun c => c == '0' || c == '1') rest
  | '0' :: 'x' :: rest => isRun isHexDigit rest
  | '0' :: rest => isRun (fun c => '0' ≤ c && c ≤ '7') rest
  | body => isNumeral body || isSexagesimal body

/-- The kind of a plain scalar; a line break at its end makes no difference. -/
def ofPlain (text : Text) : Kind :=
  let t := text.withoutBreak
  let s := String.ofList t
  if boolWords.contains s then .bool
  else if specialWords.contains s || isReal t then .float
  else if isWhole t then .int
  else if s == "<<" then .merge
  else if nullWords.contains s then .null
  else if Timestamp.isOne t then .timestamp
  else if s == "=" then .default
  else .str

/-- The tag that says as much as no tag. -/
def unspecific : String := "!"

/-- The kind of a scalar; one in quotes is a string unless a tag says otherwise. -/
def ofScalar (tag : Option String) (plain : Bool) (t : Text) : Kind :=
  match tag with
  | some name => if name == unspecific then ofPlain t else ofTag name
  | none => if plain then ofPlain t else .str

def ofSequence (tag : Option String) : Kind :=
  match tag with
  | some name => if name == unspecific then .list else ofTag name
  | none => .list

def ofMapping (tag : Option String) : Kind :=
  match tag with
  | some name => if name == unspecific then .map else ofTag name
  | none => .map

end Kind

end Yaml

end TemplateGuard
