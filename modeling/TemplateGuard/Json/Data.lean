import TemplateGuard.Fault
import TemplateGuard.Number.Double
import TemplateGuard.Table

namespace TemplateGuard

namespace Json

/-- What a text in JSON writes. Its strings are spelled with escapes, so halves may stand alone in
them; the members of a map are in the order of the text. -/
inductive Data where
  | null
  | bool (b : Bool)
  | int (n : Int)
  | float (x : Double)
  | str (s : LooseText)
  | list (items : List Data)
  | map (members : List (LooseText × Data))

namespace Data

def typeName : Data → String
  | .null => "NoneType"
  | .bool _ => "bool"
  | .int _ => "int"
  | .float _ => "float"
  | .str _ => "str"
  | .list _ => "list"
  | .map _ => "dict"

def item (d : Data) (name : String) : Except Fault Data :=
  match d with
  | .map ms =>
    match Table.find? ms (LooseText.ofString name) with
    | some x => .ok x
    | none => .error (.missingKey name)
  | .list _ => .error .listIndex
  | .str _ => .error .stringIndex
  | d => .error (.notIndexable d.typeName)

/-- What data runs through: the items of a list, the letters of a string, the names of a map. -/
def elements : Data → Except Fault (List Data)
  | .list ds => .ok ds
  | .str s => .ok (s.map fun l => .str [l])
  | .map ms => .ok (ms.map fun m => .str m.1)
  | d => .error (.notIterable d.typeName)

def size : Data → Except Fault Nat
  | .str s => .ok s.length
  | .list ds => .ok ds.length
  | .map ms => .ok ms.length
  | d => .error (.noLength d.typeName)

end Data

end Json

end TemplateGuard
