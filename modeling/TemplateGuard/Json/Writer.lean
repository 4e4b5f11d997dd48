import TemplateGuard.Value

namespace TemplateGuard

namespace Json

def escapeChar (c : Char) : String :=
  if c = '\x22' then "\\\""
  else if c = '\\' then "\\\\"
  else if c = '\n' then "\\n"
  else if c = '\r' then "\\r"
  else if c = '\t' then "\\t"
  else if c = '\x08' then "\\b"
  else if c = '\x0c' then "\\f"
  else if c.toNat < 0x20 then "\\u" ++ String.ofList (Quoted.hex 4 c.toNat)
  else c.toString

def writeString (s : String) : String :=
  "\"" ++ String.join (s.toList.map escapeChar) ++ "\""

def writeScalar : Value → String
  | .null => "null"
  | .bool b => if b then "true" else "false"
  | .int n => toString n
  | .float (.nan _) => "NaN"
  | .float (.infinite s) => if s then "-Infinity" else "Infinity"
  | .float x => x.text
  | v => writeString v.text

mutual

def compact : Value → String
  | .list vs => "[" ++ compactItems vs ++ "]"
  | .map es => "\x7b" ++ compactMembers es ++ "\x7d"
  | v => writeScalar v

def compactItems : List Value → String
  | [] => ""
  | [v] => compact v
  | v :: vs => compact v ++ ", " ++ compactItems vs

def compactMembers : List (Value × Value) → String
  | [] => ""
  | [(k, v)] => writeString k.text ++ ": " ++ compact v
  | (k, v) :: es => writeString k.text ++ ": " ++ compact v ++ ", " ++ compactMembers es

end

/-- A line break and the indentation of a nesting depth, two spaces each. -/
def newline (depth : Nat) : String := "\n" ++ String.ofList (List.replicate (2 * depth) ' ')

mutual

/-- A value with each item of a list or map on a line of its own; empty ones stay on one line. -/
def indented (depth : Nat) : Value → String
  | .list [] => "[]"
  | .list vs => "[" ++ newline (depth + 1) ++ indentedItems (depth + 1) vs ++ newline depth ++ "]"
  | .map [] => "\x7b\x7d"
  | .map es =>
    "\x7b" ++ newline (depth + 1) ++ indentedMembers (depth + 1) es ++ newline depth ++ "\x7d"
  | v => writeScalar v

def indentedItems (depth : Nat) : List Value → String
  | [] => ""
  | [v] => indented depth v
  | v :: vs => indented depth v ++ "," ++ newline depth ++ indentedItems depth vs

def indentedMembers (depth : Nat) : List (Value × Value) → String
  | [] => ""
  | [(k, v)] => writeString k.text ++ ": " ++ indented depth v
  | (k, v) :: es =>
    writeString k.text ++ ": " ++ indented depth v ++ "," ++ newline depth ++ indentedMembers depth es

end

end Json

end TemplateGuard
