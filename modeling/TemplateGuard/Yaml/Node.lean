import TemplateGuard.Yaml.Lexer
import TemplateGuard.Yaml.Kind

namespace TemplateGuard

namespace Yaml

/-- A node and the place where it starts. Inside a collection that has a name, the name stands for
the collection as a whole. -/
inductive Node where
  | scalar (kind : Kind) (text : Text) (start : Mark)
  | sequence (kind : Kind) (items : List Node) (start : Mark)
  | mapping (kind : Kind) (pairs : List (Node × Node)) (start : Mark)
  | within (name : String) (kind : Kind) (isMapping : Bool) (start : Mark)

namespace Node

def start : Node → Mark
  | .scalar _ _ m => m
  | .sequence _ _ m => m
  | .mapping _ _ m => m
  | .within _ _ _ m => m

def kind : Node → Kind
  | .scalar k _ _ => k
  | .sequence k _ _ => k
  | .mapping k _ _ => k
  | .within _ k _ _ => k

def shape : Node → String
  | .scalar .. => "scalar"
  | .sequence .. => "sequence"
  | .mapping .. => "mapping"
  | .within _ _ isMapping _ => if isMapping then "mapping" else "sequence"

/-- A scalar that is not written at all. -/
def empty (m : Mark) : Node := .scalar .null [] m

end Node

/-- Tokens to be read, what stops them, the named nodes so far, and what the handles of tags stand
for. -/
structure Source where
  tokens : List Token
  refusal : Option Refusal
  anchors : Table String Node := []
  handles : Table String String := []

abbrev Parse := StateT Source (Except Refusal)

namespace Parse

/-- The handles of tags that need not be declared. -/
def standardHandles : Table String String := [("!", "!"), ("!!", Kind.family)]

def fail {α : Type} (activity : String) (since : Mark) (what : String) (mark : Mark) : Parse α :=
  throw (.located ⟨.grammar, some activity, some since, what, mark⟩)

def peek : Parse Token := do
  let s ← get
  match s.tokens, s.refusal with
  | t :: _, _ => return t
  | [], some r => throw r
  | [], none => throw (.plain (.malformed "unexpected end of tokens"))

def advance : Parse Unit := modify fun s => { s with tokens := s.tokens.drop 1 }

def take : Parse Token := do
  let t ← peek
  advance
  return t

/-- Whether the next token is one of these; those with contents are never asked for. -/
def nextIs (kinds : List TokenKind) : Parse Bool := return kinds.contains (← peek).kind

/-- What is written before a node: a name for it and a tag, in either order. -/
structure Properties where
  anchor : Option String := none
  tag : Option String := none
  start : Option Mark := none

def fullTag (t : WrittenTag) (start mark : Mark) : Parse String := do
  match t.handle with
  | none => return t.suffix
  | some handle =>
    match Table.find? (← get).handles handle with
    | some meaning => return meaning ++ t.suffix
    | none =>
      fail "while parsing a node" start ("found undefined tag handle " ++ quoted handle) mark

def properties : Parse Properties := do
  let first ← peek
  match first.kind with
  | .anchor name =>
    advance
    let second ← peek
    match second.kind with
    | .tag t =>
      advance
      return ⟨some name, some (← fullTag t first.start second.start), some first.start⟩
    | _ => return ⟨some name, none, some first.start⟩
  | .tag t =>
    advance
    let second ← peek
    let anchor : Option String := match second.kind with
      | .anchor name => some name
      | _ => none
    if anchor.isSome then advance
    return ⟨anchor, some (← fullTag t first.start first.start), some first.start⟩
  | _ => return {}

def checkNew (anchor : Option String) (start : Mark) : Parse Unit := do
  match anchor.bind (Table.find? (← get).anchors) with
  | some first =>
    throw (.located ⟨.nodes,
      some ("found duplicate anchor " ++ quoted (anchor.getD "") ++ "; first occurrence"),
      some first.start, "second occurrence", start⟩)
  | none => return

def record (anchor : Option String) (n : Node) : Parse Node := do
  match anchor with
  | none => return n
  | some name =>
    modify fun s => { s with anchors := Table.put s.anchors name n }
    return n

/-- Gives a collection that is about to be read its name. -/
def declare (p : Properties) (kind : Kind) (isMapping : Bool) (start : Mark) : Parse Unit := do
  checkNew p.anchor start
  let _ ← record p.anchor (.within (p.anchor.getD "") kind isMapping start)

def named (name : String) (mark : Mark) : Parse Node := do
  match Table.find? (← get).anchors name with
  | some n => return n
  | none =>
    throw (.located { step := .nodes, what := "found undefined alias " ++ quoted name, mark := mark })

def sequenceOf (p : Properties) (start : Mark) (items : List Node) : Parse Node :=
  record p.anchor (.sequence (Kind.ofSequence p.tag) items start)

def mappingOf (p : Properties) (start : Mark) (pairs : List (Node × Node)) : Parse Node :=
  record p.anchor (.mapping (Kind.ofMapping p.tag) pairs start)

def maxDepth : Nat := 490

mutual

/-- A node. In a `block` it may be an indented collection, and with `flush` a sequence whose dashes
are no further to the right than the key before it. Each round takes a token or opens a node. -/
def node : Nat → Nat → Bool → Bool → Parse Node
  | 0, _, _, _ => throw (.plain (.tooDeep ""))
  | rounds + 1, depth, block, flush => do
    let first ← peek
    if let .reference name := first.kind then
      advance
      return ← named name first.start
    let p ← properties
    let t ← peek
    let start := p.start.getD t.start
    if maxDepth < depth then throw (.plain (.tooDeep ""))
    match t.kind with
    | .scalar text plain =>
      advance
      checkNew p.anchor start
      record p.anchor (.scalar (Kind.ofScalar p.tag plain text) text start)
    | .openList =>
      declare p (Kind.ofSequence p.tag) false start
      advance
      sequenceOf p start (← listItems rounds depth t.start true)
    | .openMap =>
      declare p (Kind.ofMapping p.tag) true start
      advance
      mappingOf p start (← mapPairs rounds depth t.start true)
    | .entry =>
      if flush then
        declare p (Kind.ofSequence p.tag) false start
        sequenceOf p start (← flushItems rounds depth)
      else bare p block start t
    | .blockSequence =>
      if block then
        declare p (Kind.ofSequence p.tag) false start
        advance
        sequenceOf p start (← blockItems rounds depth t.start)
      else bare p block start t
    | .blockMapping =>
      if block then
        declare p (Kind.ofMapping p.tag) true start
        advance
        mappingOf p start (← blockPairs rounds depth t.start)
      else bare p block start t
    | _ => bare p block start t
where
  /-- A node with a name or a tag and nothing else is an empty scalar. -/
  bare (p : Properties) (block : Bool) (start : Mark) (t : Token) : Parse Node := do
    if p.anchor.isSome || p.tag.isSome then
      checkNew p.anchor start
      record p.anchor (.scalar (Kind.ofScalar p.tag true []) [] start)
    else
      fail ("while parsing a " ++ (if block then "block" else "flow") ++ " node") start
        ("expected the node content, but found " ++ quoted t.kind.name) t.start

/-- The items of an indented sequence that started at `since`, up to its end. -/
def blockItems : Nat → Nat → Mark → Parse (List Node)
  | 0, _, _ => throw (.plain (.tooDeep ""))
  | rounds + 1, depth, since => do
    let t ← take
    match t.kind with
    | .entry =>
      let item ←
        if ← nextIs [.entry, .blockEnd] then pure (Node.empty t.stop)
        else node rounds (depth + 1) true false
      return item :: (← blockItems rounds depth since)
    | .blockEnd => return []
    | _ =>
      fail "while parsing a block collection" since
        ("expected <block end>, but found " ++ quoted t.kind.name) t.start

/-- The items of a sequence that is not indented, as long as there are dashes. -/
def flushItems : Nat → Nat → Parse (List Node)
  | 0, _ => throw (.plain (.tooDeep ""))
  | rounds + 1, depth => do
    let t ← peek
    match t.kind with
    | .entry =>
      advance
      let item ←
        if ← nextIs [.entry, .key, .value, .blockEnd] then pure (Node.empty t.stop)
        else node rounds (depth + 1) true false
      return item :: (← flushItems rounds depth)
    | _ => return []

/-- The pairs of an indented mapping that started at `since`, up to its end. A key or a value may be
missing. -/
def blockPairs : Nat → Nat → Mark → Parse (List (Node × Node))
  | 0, _, _ => throw (.plain (.tooDeep ""))
  | rounds + 1, depth, since => do
    let t ← take
    match t.kind with
    | .key =>
      let k ←
        if ← nextIs [.key, .value, .blockEnd] then pure (Node.empty t.stop)
        else node rounds (depth + 1) true true
      let v ← blockValue rounds depth
      return (k, v) :: (← blockPairs rounds depth since)
    | .blockEnd => return []
    | _ =>
      fail "while parsing a block mapping" since
        ("expected <block end>, but found " ++ quoted t.kind.name) t.start

def blockValue : Nat → Nat → Parse Node
  | 0, _ => throw (.plain (.tooDeep ""))
  | rounds + 1, depth => do
    let t ← peek
    match t.kind with
    | .value =>
      advance
      if ← nextIs [.key, .value, .blockEnd] then return Node.empty t.stop
      else node rounds (depth + 1) true true
    | _ => return Node.empty t.start

/-- The items of a list in brackets that started at `since`; all but the `first` follow a comma. A
pair without braces is a mapping of its own. -/
def listItems : Nat → Nat → Mark → Bool → Parse (List Node)
  | 0, _, _, _ => throw (.plain (.tooDeep ""))
  | rounds + 1, depth, since, first => do
    let t ← peek
    if t.kind == .closeList then
      advance
      return []
    if !first then
      if t.kind == .comma then advance
      else
        fail "while parsing a flow sequence" since
          ("expected ',' or ']', but got " ++ quoted t.kind.name) t.start
    let t ← peek
    match t.kind with
    | .closeList =>
      advance
      return []
    | .key =>
      advance
      if maxDepth ≤ depth then throw (.plain (.tooDeep ""))
      let k ←
        if ← nextIs [.value, .comma, .closeList] then pure (Node.empty t.stop)
        else node rounds (depth + 2) false false
      let v ← flowValue rounds (depth + 1) .closeList
      return .mapping .map [(k, v)] t.start :: (← listItems rounds depth since false)
    | _ =>
      let item ← node rounds (depth + 1) false false
      return item :: (← listItems rounds depth since false)

/-- The pairs of a map in braces that started at `since`; all but the `first` follow a comma. A key
alone has no value. -/
def mapPairs : Nat → Nat → Mark → Bool → Parse (List (Node × Node))
  | 0, _, _, _ => throw (.plain (.tooDeep ""))
  | rounds + 1, depth, since, first => do
    let t ← peek
    if t.kind == .closeMap then
      advance
      return []
    if !first then
      if t.kind == .comma then advance
      else
        fail "while parsing a flow mapping" since
          ("expected ',' or '\x7d', but got " ++ quoted t.kind.name) t.start
    let t ← peek
    match t.kind with
    | .closeMap =>
      advance
      return []
    | .key =>
      advance
      let k ←
        if ← nextIs [.value, .comma, .closeMap] then pure (Node.empty t.stop)
        else node rounds (depth + 1) false false
      let v ← flowValue rounds depth .closeMap
      return (k, v) :: (← mapPairs rounds depth since false)
    | _ =>
      let k ← node rounds (depth + 1) false false
      let after ← peek
      return (k, Node.empty after.start) :: (← mapPairs rounds depth since false)

def flowValue : Nat → Nat → TokenKind → Parse Node
  | 0, _, _ => throw (.plain (.tooDeep ""))
  | rounds + 1, depth, close => do
    let t ← peek
    match t.kind with
    | .value =>
      advance
      if ← nextIs [.comma, close] then return Node.empty t.stop
      else node rounds (depth + 1) false false
    | _ => return Node.empty t.start

end

/-- The directives before a document: at most one version, and each handle once. -/
def directives : Nat → Bool → Table String String → Parse (Table String String)
  | 0, _, handles => return handles
  | rounds + 1, hasVersion, handles => do
    let t ← peek
    let wrong (what : String) : Parse (Table String String) :=
      throw (.located { step := .grammar, what := what, mark := t.start })
    match t.kind with
    | .directive d =>
      advance
      match d with
      | .version major =>
        if hasVersion then wrong "found duplicate YAML directive"
        else if major != 1 then
          wrong "found incompatible YAML document (version 1.* is required)"
        else directives rounds true handles
      | .handle name meaning =>
        if (Table.find? handles name).isSome then wrong ("duplicate tag handle " ++ quoted name)
        else directives rounds hasVersion (handles ++ [(name, meaning)])
      | .other => directives rounds hasVersion handles
    | _ => return handles

def skipEnds : Nat → Parse Unit
  | 0 => return
  | rounds + 1 => do
    if ← nextIs [.documentEnd] then
      advance
      skipEnds rounds

/-- The start of a document that is marked as one, if there is another document; `none` at the end
of the text. -/
def documentStart (rounds : Nat) : Parse (Option Mark) := do
  skipEnds rounds
  let t ← peek
  if t.kind == .streamEnd then return none
  let handles ← directives rounds false []
  let s ← peek
  if s.kind != .documentStart then
    throw (.located {
      step := .grammar
      what := "expected '<document start>', but found " ++ quoted s.kind.name
      mark := s.start })
  advance
  modify fun s => { s with handles := handles ++ standardHandles }
  return some t.start

/-- The content of a document that is marked as one. -/
def documentContent (rounds : Nat) : Parse Node := do
  let t ← peek
  match t.kind with
  | .directive _ => return Node.empty t.start
  | .documentStart => return Node.empty t.start
  | .documentEnd => return Node.empty t.start
  | .streamEnd => return Node.empty t.start
  | _ => node rounds 1 true false

/-- The document of a text, if it has one; the first need not be marked. -/
def firstDocument (rounds : Nat) : Parse (Option Node) := do
  let t ← peek
  let marked := match t.kind with
    | .directive _ => true
    | .documentStart => true
    | .streamEnd => true
    | _ => false
  if marked then
    match ← documentStart rounds with
    | none => return none
    | some _ => return some (← documentContent rounds)
  else
    modify fun s => { s with handles := standardHandles }
    return some (← node rounds 1 true false)

def document (rounds : Nat) : Parse (Option Node) := do
  match ← firstDocument rounds with
  | none => return none
  | some root =>
    match ← documentStart rounds with
    | none => return some root
    | some again =>
      throw (.located ⟨.nodes, some "expected a single document in the stream", some root.start,
        "but found another document", again⟩)

end Parse

/-- A document: its root, and the nodes that have names. -/
structure Document where
  root : Node
  named : Table String Node

def Document.ofTokens? (ts : Tokens) : Except Refusal (Option Document) := do
  let (root, s) ←
    (Parse.document (4 * ts.list.length + 8)).run { tokens := ts.list, refusal := ts.refusal }
  return root.map fun n => ⟨n, s.anchors⟩

end Yaml

end TemplateGuard
