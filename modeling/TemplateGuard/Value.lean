import TemplateGuard.Fault
import TemplateGuard.Moment
import TemplateGuard.Number.Numeral
import TemplateGuard.Number.Shortest
import TemplateGuard.Table
import TemplateGuard.Text.Cut

namespace TemplateGuard

/-- A value of the data formats; the entries of a map are in insertion order. A list or map that
contains itself is written out some times, and ends in a mark for its coming around again. -/
inductive Value where
  | null
  | bool (b : Bool)
  | int (n : Int)
  | float (x : Double)
  | moment (m : Moment)
  | str (s : String)
  | bytes (bs : List UInt8)
  | list (items : List Value)
  | map (entries : List (Value × Value))
  | set (members : List Value)
  | pair (first second : Value)
  | loop (isMap : Bool)
  deriving Inhabited

namespace Value

def typeName : Value → String
  | .null => "NoneType"
  | .bool _ => "bool"
  | .int _ => "int"
  | .float _ => "float"
  | .moment m => m.typeName
  | .str _ => "str"
  | .bytes _ => "bytes"
  | .list _ => "list"
  | .map _ => "dict"
  | .set _ => "set"
  | .pair .. => "tuple"
  | .loop isMap => if isMap then "dict" else "list"

/-- Zeros and empty values are false, everything else is true. -/
def truthy : Value → Bool
  | .null => false
  | .bool b => b
  | .int n => n != 0
  | .float x => !x.isZero
  | .moment _ => true
  | .str s => s != ""
  | .bytes bs => !bs.isEmpty
  | .list xs => !xs.isEmpty
  | .map es => !es.isEmpty
  | .set xs => !xs.isEmpty
  | .pair .. => true
  | .loop _ => true

/-- A value as a number, if it is one: truth values count as zero and one. -/
def whole? : Value → Option Int
  | .bool b => some (if b then 1 else 0)
  | .int n => some n
  | _ => none

/-- Equality of keys and set members: numbers by value whatever their type, strings by content.
Lists, maps and sets are never keys or members, so they are not compared. -/
def same : Value → Value → Bool
  | .null, .null => true
  | .str a, .str b => a == b
  | .moment a, .moment b => a == b
  | .bytes a, .bytes b => a == b
  | .pair a b, .pair c d => same a c && same b d
  | .float x, .float y => x.same y
  | .float x, v => (v.whole?.map x.sameInt).getD false
  | v, .float x => (v.whole?.map x.sameInt).getD false
  | v, w =>
    match v.whole?, w.whole? with
    | some a, some b => a == b
    | _, _ => false

instance : BEq Value := ⟨same⟩

theorem str_beq_str (a b : String) : ((Value.str a) == (Value.str b)) = (a == b) := rfl

mutual

/-- The text of a value inside messages, strings quoted. -/
def display : Value → String
  | .null => "None"
  | .bool b => if b then "True" else "False"
  | .int n => toString n
  | .float x => x.text
  | .moment m => m.display
  | .str s => quoted s
  | .bytes bs => String.ofList (Quoted.encodeBytes bs)
  | .list xs => "[" ++ displayItems xs ++ "]"
  | .map es => "\x7b" ++ displayEntries es ++ "\x7d"
  | .set [] => "set()"
  | .set xs => "\x7b" ++ displayItems xs ++ "\x7d"
  | .pair a b => "(" ++ display a ++ ", " ++ display b ++ ")"
  | .loop isMap => if isMap then "\x7b...\x7d" else "[...]"

def displayItems : List Value → String
  | [] => ""
  | [v] => display v
  | v :: rest => display v ++ ", " ++ displayItems rest

def displayEntries : List (Value × Value) → String
  | [] => ""
  | [(k, v)] => display k ++ ": " ++ display v
  | (k, v) :: rest => display k ++ ": " ++ display v ++ ", " ++ displayEntries rest

end

/-- The plain text of a value: a string is its own text. -/
def text : Value → String
  | .str s => s
  | v => v.display

/-- Whether a value has a member of this name: a key of a map, an item of a list or a set, a part of
a string. -/
def has (v : Value) (name : String) : Except Fault Bool :=
  match v with
  | .map es => .ok (Table.find? es (.str name)).isSome
  | .list xs => .ok (xs.any (same (.str name)))
  | .set xs => .ok (xs.any (same (.str name)))
  | .bytes _ => .error .needsBytes
  | .pair a b => .ok (same (.str name) a || same (.str name) b)
  | .loop _ => .ok false
  | .str s => .ok (Text.hasInfix s.toList name.toList)
  | v => .error (.notSearchable v.typeName)

def item (v : Value) (name : String) : Except Fault Value :=
  match v with
  | .map es =>
    match Table.find? es (.str name) with
    | some x => .ok x
    | none => .error (.missingKey name)
  | .list _ => .error .listIndex
  | .str _ => .error .stringIndex
  | v => .error (.notIndexable v.typeName)

/-- The values that a value runs through: items of a list or a set, characters of a string, numbers
of bytes, keys of a map. -/
def elements : Value → Except Fault (List Value)
  | .list xs => .ok xs
  | .str s => .ok (s.toList.map fun c => .str c.toString)
  | .bytes bs => .ok (bs.map fun b => .int b.toNat)
  | .map es => .ok (es.map Prod.fst)
  | .set xs => .ok xs
  | .pair a b => .ok [a, b]
  | .loop _ => .ok []
  | v => .error (.notIterable v.typeName)

/-- The set of these members, no two of which are equal. Whole numbers stand in their order. -/
def setOf (members : List Value) : Value :=
  if members.all fun v => v.whole?.isSome then
    .set (members.mergeSort fun a b => decide (a.whole?.getD 0 ≤ b.whole?.getD 0))
  else .set members

/-- The type that keeps a value from being a member of a set: lists, maps and sets are none, nor are
pairs with such a part. -/
def unhashableType? : Value → Option String
  | .list _ => some "list"
  | .map _ => some "dict"
  | .set _ => some "set"
  | .loop isMap => some (if isMap then "dict" else "list")
  | .pair a b => (unhashableType? a).or (unhashableType? b)
  | _ => none

def hashable (v : Value) : Except Fault Value :=
  match v.unhashableType? with
  | some type => .error (.unhashable type)
  | none => .ok v

/-- The members of a set made from values: the first of equal ones is kept. -/
def distinct : List Value → List Value → Except Fault (List Value)
  | kept, [] => .ok kept
  | kept, v :: rest =>
    match v.hashable with
    | .error f => .error f
    | .ok v => distinct (if kept.any (same v) then kept else kept ++ [v]) rest

/-- A value as a real number; strings are read as numerals. -/
def toReal : Value → Except Fault Double
  | .float x => .ok x
  | .int n => match Double.ofInt? n with
    | some x => .ok x
    | none => .error .tooLarge
  | .bool b => .ok (Double.ofRatio false b.toNat 1)
  | .str s => match Numeral.real? s.toList with
    | some x => .ok x
    | none => .error (.badReal (quoted s))
  | .bytes bs =>
    match Numeral.real? (bs.map fun b => Char.ofNat b.toNat), bs.all (· < 0x80) with
    | some x, true => .ok x
    | _, _ => .error (.badReal (String.ofList (Quoted.encodeBytes bs)))
  | v => .error (.notReal v.typeName)

/-- The entries of a map; other values have no such member. -/
def entries : Value → Except Fault (Table Value Value)
  | .map es => .ok es
  | v => .error (.noMember v.typeName "items")

end Value

end TemplateGuard
