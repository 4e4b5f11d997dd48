import TemplateGuard.Text.Quoted
import TemplateGuard.Yaml.Node
import TemplateGuard.Yaml.Scalar

namespace TemplateGuard

namespace Yaml

namespace Node

def refuse {α : Type} (what : String) (mark : Mark) : Except Refusal α :=
  .error (.located { step := .values, what := what, mark := mark })

def refusePart {α : Type} (collection what : String) (whole part : Mark) : Except Refusal α :=
  .error (.located ⟨.values, some ("while constructing " ++ collection), some whole, what, part⟩)

/-- A key that is the sign for the default is a string. -/
def asKey : Node → Node
  | .scalar .default t m => .scalar .str t m
  | n => n

/-- The node that a name inside it stands for, others as they are. -/
def resolve (named : Table String Node) : Node → Node
  | .within name kind isMapping m =>
    (Table.find? named name).getD (.within name kind isMapping m)
  | n => n

/-- The text of a scalar; that of a mapping is the text of its default. Each round opens a node. -/
def scalarText : Nat → Node → Except Refusal Text
  | 0, n => refuse ("expected a scalar node, but found " ++ n.shape) n.start
  | rounds + 1, n =>
    let wrong : Except Refusal Text :=
      refuse ("expected a scalar node, but found " ++ n.shape) n.start
    match n with
    | .scalar _ t _ => .ok t
    | .mapping _ pairs _ =>
      match pairs.find? fun (k, _) => k.kind == .default with
      | some (_, v) => scalarText rounds v
      | none => wrong
    | _ => wrong

def scalarValue (rounds : Nat) (n : Node) : Except Refusal Value :=
  match n.kind, Scalar.reader? n.kind with
  | .binary, _ => do
    match Scalar.binary (← scalarText rounds n) with
    | .ok v => return v
    | .error what => refuse what n.start
  | kind, some read => do
    let t ← scalarText rounds n
    match kind, n with
    | .timestamp, .mapping .. => throw (.plain (.notMatched (Value.list []).typeName))
    | _, _ => (read t).mapError .plain
  | kind, none =>
    refuse ("could not determine a constructor for the tag " ++ quoted kind.tag) n.start

/-- The pairs of a mapping that are not merged from others. -/
def own (pairs : List (Node × Node)) : List (Node × Node) :=
  (pairs.filter fun (k, _) => k.kind != .merge).map fun (k, v) => (k.asKey, v)

mutual

/-- The pairs of a mapping with those of the mappings that it merges before its own, so that its own
win. Each round opens a mapping. -/
def merged (named : Table String Node) : Nat → Mark → List (Node × Node) →
    Except Refusal (List (Node × Node))
  | 0, _, pairs => .ok pairs
  | rounds + 1, start, pairs => do
    let taken ← (pairs.filter fun (k, _) => k.kind == .merge).mapM fun (_, v) =>
      mergedFrom named rounds start v
    return taken.flatten ++ own pairs

/-- The pairs that a mapping merges from a mapping, or from several of which the first wins. -/
def mergedFrom (named : Table String Node) : Nat → Mark → Node →
    Except Refusal (List (Node × Node))
  | 0, _, _ => .ok []
  | rounds + 1, start, v =>
    match v with
    | .sequence _ items _ => do
      let parts ← items.mapM fun item =>
        if item.shape == "mapping" then mergedOne named rounds item
        else
          refusePart "a mapping" ("expected a mapping for merging, but found " ++ item.shape) start
            item.start
      return parts.reverse.flatten
    | v =>
      if v.shape == "mapping" then mergedOne named rounds v
      else
        refusePart "a mapping"
          ("expected a mapping or list of mappings for merging, but found " ++ v.shape) start v.start

/-- The pairs that one mapping gives to another; a mapping around the other gives its own only. -/
def mergedOne (named : Table String Node) : Nat → Node → Except Refusal (List (Node × Node))
  | 0, _ => .ok []
  | rounds + 1, v =>
    match v with
    | .mapping _ pairs m => merged named rounds m pairs
    | v =>
      match v.resolve named with
      | .mapping _ pairs _ => .ok (own pairs)
      | _ => .ok []

end

/-- Whether a node is for a collection, which is filled after it is made. -/
def isCollection (n : Node) : Bool := [.list, .map, .set, .orderedMap, .pairs].contains n.kind

/-- A kind of list of pairs as messages name it. -/
def pairsTitle (kind : Kind) : String :=
  if kind == .orderedMap then "an ordered map" else "pairs"

def onePair (named : Table String Node) (title : String) (whole : Mark) (item : Node) :
    Except Refusal (Node × Node) :=
  match item.resolve named with
  | .mapping _ [pair] _ => .ok pair
  | .mapping _ pairs m =>
    refusePart title ("expected a single mapping item, but found " ++ toString pairs.length ++
      " items") whole m
  | n => refusePart title ("expected a mapping of length 1, but found " ++ n.shape) whole n.start

/-- The members of a collection, before they are checked: those of a list of pairs are items, too. -/
inductive Members where
  | items (ns : List Node)
  | entries (es : List (Node × Node))

def members (d : Document) (rounds : Nat) (n : Node) : Except Refusal Members :=
  match n.kind, n with
  | .list, .sequence _ items _ => .ok (.items items)
  | .list, n => refuse ("expected a sequence node, but found " ++ n.shape) n.start
  | .orderedMap, .sequence _ items _ => .ok (.items items)
  | .orderedMap, n => noPairs n
  | .pairs, .sequence _ items _ => .ok (.items items)
  | .pairs, n => noPairs n
  | _, .mapping _ pairs m => (merged d.named (3 * rounds + 3) m pairs).map .entries
  | _, n => refuse ("expected a mapping node, but found " ++ n.shape) n.start
where
  /-- Refuses what is no list of pairs. -/
  noPairs (n : Node) : Except Refusal Members :=
    refusePart (pairsTitle n.kind) ("expected a sequence, but found " ++ n.shape) n.start n.start

def pairOf (d : Document) (whole item : Node) : Except Refusal (Node × Node) :=
  onePair d.named (pairsTitle whole.kind) whole.start item

/-- Checks a node, and returns it if its members are still to be checked. A collection is made but
once, so its name inside it is right. -/
def checkOne (rounds : Nat) (n : Node) : Except Refusal (List Node) :=
  match n with
  | .within .. => .ok []
  | n => if n.isCollection then .ok [n] else (n.scalarValue rounds).map fun _ => []

def checkKey (rounds : Nat) (whole : Mark) (k : Node) : Except Refusal (List Node) :=
  if k.isCollection then refusePart "a mapping" "found unhashable key" whole k.start
  else checkOne rounds k

def checkItem (d : Document) (rounds : Nat) (whole item : Node) : Except Refusal (List Node) :=
  if whole.kind == .list then checkOne rounds item
  else do
    let (k, v) ← pairOf d whole item
    return (← checkOne rounds k) ++ (← checkOne rounds v)

def checkMembers (d : Document) (rounds : Nat) (n : Node) : Except Refusal (List Node) := do
  match ← members d rounds n with
  | .items ns => return (← ns.mapM (checkItem d rounds n)).flatten
  | .entries es =>
    let parts ← es.mapM fun (k, v) => do
      return (← checkKey rounds n.start k) ++ (← checkOne rounds v)
    return parts.flatten

def checkLevels (d : Document) : Nat → List Node → Except Refusal Unit
  | 0, _ => .ok ()
  | rounds + 1, level => do
    let next ← level.mapM (checkMembers d rounds)
    if level.isEmpty then return () else checkLevels d rounds next.flatten

/-- How many times a collection that contains itself is written out: settings are not nested more
deeply than that. -/
def maxLaps : Nat := 4

/-- The value of a node all of whose parts are right, where a collection inside itself may be written
out `laps` times more. Each round opens a node. -/
def value (d : Document) : Nat → Nat → Node → Except Refusal Value
  | 0, _, _ => .ok .null
  | rounds + 1, laps, n =>
    match n, laps with
    | .within _ _ isMapping _, 0 => .ok (.loop isMapping)
    | .within name kind isMapping m, laps + 1 =>
      value d rounds laps (resolve d.named (.within name kind isMapping m))
    | n, laps =>
      if n.isCollection then do
        match ← members d rounds n with
        | .items ns =>
          if n.kind == .list then return .list (← ns.mapM (value d rounds laps))
          else
            let entries ← ns.mapM fun item => do
              let (k, v) ← pairOf d n item
              return Value.pair (← value d rounds laps k) (← value d rounds laps v)
            return .list entries
        | .entries es =>
          let entries ← es.mapM fun (k, v) => do
            return (← value d rounds laps k, ← value d rounds laps v)
          if n.kind == .set then return Value.setOf (Table.ofPairs entries).keys
          else return .map (Table.ofPairs entries)
      else n.scalarValue rounds

end Node

def isReadable (c : Char) : Bool :=
  let n := c.toNat
  c == '\t' || c == '\n' || c == '\r' || (0x20 ≤ n && n ≤ 0x7E) || n == 0x85 ||
    (0xA0 ≤ n && n ≤ 0xFFFD) || 0x10000 ≤ n

def unreadable? (name : String) (t : Text) : Option Fault :=
  (t.dropWhile isReadable).head?.map fun c =>
    .unreadable .characters ("unacceptable character #x" ++
      String.ofList (Quoted.hex 4 c.toNat) ++ ": special characters are not allowed\n  in \"" ++
      name ++ "\", position " ++ toString (t.takeWhile isReadable).length)

def Document.value (d : Document) (rounds : Nat) : Except Refusal Value := do
  Node.checkLevels d rounds (← d.root.checkOne rounds)
  d.root.value d ((Node.maxLaps + 1) * rounds) Node.maxLaps

def document (t : Text) : Except Refusal Value := do
  let tokens := Tokens.ofText t
  match ← Document.ofTokens? tokens with
  | none => return .null
  | some d => d.value (tokens.list.length + 2)

def read (name : String) (t : Text) : Except Fault Value :=
  match unreadable? name t with
  | some f => .error f
  | none => (document t).mapError (Refusal.fault name)

end Yaml

end TemplateGuard
