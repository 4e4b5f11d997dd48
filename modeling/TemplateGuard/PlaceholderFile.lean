import TemplateGuard.Json.Reader
import TemplateGuard.Json.Writer
import TemplateGuard.Masking

namespace TemplateGuard

namespace PlaceholderFile

/-- A placeholder as a file has it, before its parts are known to be texts. -/
structure Item where
  key : Json.Data
  covered : Json.Data

def ofPlaceholders (ps : List Placeholder) : Value :=
  .list (ps.map fun p => .map [(.str "key", .str (String.ofList p.key)),
    (.str "original", .str (String.ofList p.covered))])

def ofMasked (m : Masked) : Value :=
  .map [(.str "text", .str (String.ofList m.text)), (.str "placeholders", ofPlaceholders m.placeholders)]

/-- One item: its key is read before its text. -/
def item (d : Json.Data) : Except Fault Item := do
  let key ← d.item "key"
  let covered ← d.item "original"
  return ⟨key, covered⟩

def items (d : Json.Data) : Except Fault (List Item) := do
  let members ← match d with
    | .map _ => do (← d.item "placeholders").elements
    | d => d.elements
  members.mapM item

/-- Expands one item in a text. Only a text can be looked for, and only a text can be put in the
place of a key, which is asked of an item whose key occurs. -/
def Item.expand (t : LooseText) (e : Item) : Except Fault LooseText :=
  match e.key with
  | .str key =>
    if t.hasInfix key then
      match e.covered with
      | .str covered => .ok (t.replaceAll key covered)
      | .null => .error (.notReplacement "None")
      | d => .error (.notReplacement d.typeName)
    else .ok t
  | d => .error (.notSought d.typeName)

/-- Pairs each item with the size of its key. -/
def sized (es : List Item) : Except Fault (List (Nat × Item)) :=
  es.mapM fun e => e.key.size.map fun n => (n, e)

/-- Expands all items, those with longer keys first and otherwise in the order of the file. -/
def restore (t : LooseText) (es : List Item) : Except Fault LooseText := do
  let all ← sized es
  let ordered := all.mergeSort fun a b => decide (b.1 ≤ a.1)
  ordered.foldlM (fun text e => e.2.expand text) t

/-- Restores a text from the data of a file. Nothing is checked beforehand: what has the wrong shape
is a fault when it is first used. -/
def apply (data : Json.Data) (t : Text) : Except Fault LooseText := do
  let es ← items data
  restore (.ofText t) es

end PlaceholderFile

end TemplateGuard
