import TemplateGuard.Text.Digit
import TemplateGuard.Text.Quoted
import TemplateGuard.Text.Cut

namespace TemplateGuard

namespace CommandLine

/-- A switch by its names; it takes one value or none. -/
structure Switch where
  names : List String
  takesValue : Bool
  deriving DecidableEq, Repr

/-- A switch as messages name it. -/
def Switch.title (s : Switch) : String := "/".intercalate s.names

/-- What is wrong with a command line; asking for help also ends its reading. -/
inductive Problem where
  | help
  | ambiguous (argument : String) (names : List String)
  | expectsValue (s : Switch)
  | ignoresValue (s : Switch) (value : String)
  | notWhole (s : Switch) (value : String)
  | notChoice (title value : String) (choices : List String)
  | missing (title : String)
  | leftOver (arguments : List String)
  deriving DecidableEq, Repr

def Problem.message : Problem → String
  | .help => ""
  | .ambiguous a names => "ambiguous option: " ++ a ++ " could match " ++ ", ".intercalate names
  | .expectsValue s => "argument " ++ s.title ++ ": expected one argument"
  | .ignoresValue s v => "argument " ++ s.title ++ ": ignored explicit argument " ++ quoted v
  | .notWhole s v => "argument " ++ s.title ++ ": invalid int value: " ++ quoted v
  | .notChoice title v choices =>
    "argument " ++ title ++ ": invalid choice: " ++ quoted v ++ " (choose from " ++
      ", ".intercalate (choices.map quoted) ++ ")"
  | .missing title => "the following arguments are required: " ++ title
  | .leftOver arguments => "unrecognized arguments: " ++ " ".intercalate arguments

/-- What an argument is: a plain one, the mark after which all are plain, a switch and the text
joined to it, or something that looks like a switch and is none. -/
inductive Token where
  | plain
  | mark
  | switch (s : Switch) (name : String) (joined : Option Text)
  | unknown
  deriving DecidableEq, Repr

/-- The parts of an argument before and after its first equals sign. -/
def splitEquals : Text → Text × Option Text
  | [] => ([], none)
  | '=' :: rest => ([], some rest)
  | c :: rest => let (a, b) := splitEquals rest; (c :: a, b)

def isDigit (c : Char) : Bool := (digitValue? c).isSome

/-- Digits, perhaps with a point before the last of them, after a minus sign; a line feed may end
them. -/
def isNegativeNumber : Text → Bool
  | '-' :: body =>
    let body := if body.getLast? = some '\n' then body.dropLast else body
    let fraction := (body.dropWhile isDigit).drop 1
    (!body.isEmpty && body.all isDigit) ||
      ((body.dropWhile isDigit).head? = some '.' && !fraction.isEmpty && fraction.all isDigit)
  | _ => false

abbrev Grammar := List Switch

namespace Grammar

/-- All names, each with its switch, in the order of the grammar. -/
def named (g : Grammar) : List (String × Switch) :=
  g.flatMap fun s => s.names.map fun n => (n, s)

def find? (g : Grammar) (name : Text) : Option (String × Switch) :=
  g.named.find? fun (n, _) => n.toList == name

/-- The switches that an argument may be short for: a long one cut short before its value, or a
one-letter one with a value or further letters joined to it. -/
def candidates (g : Grammar) (t : Text) : List Token :=
  if ['-', '-'].isPrefixOf t then
    let (name, value) := splitEquals t
    (g.named.filter fun (n, _) => name.isPrefixOf n.toList).map fun (n, s) =>
      .switch s n value
  else
    g.named.filterMap fun (n, s) =>
      if n.toList == t.take 2 then some (.switch s n (some (t.drop 2)))
      else if t.isPrefixOf n.toList then some (.switch s n none)
      else none

def namesOf (ts : List Token) : List String :=
  ts.filterMap fun
    | .switch _ n _ => some n
    | _ => none

/-- What an argument that is no full name of a switch, alone or before an equals sign, is. -/
def classifyLoose (g : Grammar) (a : String) : Except Problem Token :=
  let t := a.toList
  match g.candidates t with
  | [one] => .ok one
  | [] => .ok (if isNegativeNumber t || t.contains ' ' then .plain else .unknown)
  | several => .error (.ambiguous a (namesOf several))

/-- What an argument is. Negative numbers and texts with a space are plain unless a switch fits. -/
def classify (g : Grammar) (a : String) : Except Problem Token :=
  match a.toList with
  | '-' :: c :: rest =>
    let t := '-' :: c :: rest
    match g.find? t with
    | some (n, s) => .ok (.switch s n none)
    | none =>
      match splitEquals t with
      | (name, some value) =>
        match g.find? name with
        | some (n, s) => .ok (.switch s n (some value))
        | none => g.classifyLoose a
      | (_, none) => g.classifyLoose a
  | _ => .ok .plain

/-- What all arguments are, those after the mark being plain. -/
def classifyAll (g : Grammar) : List String → Except Problem (List (String × Token))
  | [] => .ok []
  | a :: rest =>
    if a = "--" then .ok ((a, .mark) :: rest.map fun r => (r, .plain))
    else do
      let token ← g.classify a
      let tokens ← g.classifyAll rest
      return (a, token) :: tokens

/-- The switches that letters joined to the one-letter switch `s` stand for, `s` first. All of them
are one-letter switches without values. -/
def cluster (g : Grammar) (s : Switch) : Text → Except Problem (List Switch)
  | [] => .error (.ignoresValue s "")
  | c :: rest =>
    match g.find? ['-', c], rest with
    | none, _ => .error (.ignoresValue s (String.ofList (c :: rest)))
    | some (_, next), [] => .ok [s, next]
    | some (_, next), d :: rest => (cluster g next (d :: rest)).map (s :: ·)

/-- The value that a joined text gives: the mark that makes all arguments plain is no value, and
leaves the switch without one. -/
def joinedValue (t : Text) : Option String :=
  if t = ['-', '-'] then none else some (String.ofList t)

/-- What reading arguments gives: the state that the switches led to, the arguments left over, and
those not read. -/
structure Parsed (σ : Type) where
  state : σ
  leftOver : List String := []
  unread : List String := []

def Parsed.after {σ : Type} (left : List String) (p : Parsed σ) : Parsed σ :=
  { p with leftOver := left ++ p.leftOver }

/-- Reads arguments from left to right; `take` is told each switch and its value, if it got one.
With `upToPlain` the first plain argument ends the reading, else it is left over. -/
def consume {σ : Type} (g : Grammar) (take : σ → Switch → Option String → Except Problem σ)
    (upToPlain : Bool) : σ → List (String × Token) → Except Problem (Parsed σ)
  | st, [] => .ok { state := st }
  | st, (a, .plain) :: rest =>
    if upToPlain then .ok { state := st, unread := a :: rest.map Prod.fst }
    else (consume g take upToPlain st rest).map (Parsed.after [a])
  | st, (a, .mark) :: rest =>
    if upToPlain && !rest.isEmpty then .ok { state := st, unread := a :: rest.map Prod.fst }
    else .ok { state := st, leftOver := a :: rest.map Prod.fst }
  | st, (a, .unknown) :: rest => (consume g take upToPlain st rest).map (Parsed.after [a])
  | st, (_, .switch s _ none) :: rest =>
    if s.takesValue then
      match rest with
      | (v, .plain) :: rest' => do consume g take upToPlain (← take st s (some v)) rest'
      | _ => .error (.expectsValue s)
    else do consume g take upToPlain (← take st s none) rest
  | st, (_, .switch s name (some joined)) :: rest =>
    if s.takesValue then do consume g take upToPlain (← take st s (joinedValue joined)) rest
    else if ['-', '-'].isPrefixOf name.toList then .error (.ignoresValue s (String.ofList joined))
    else do
      let switches ← g.cluster s joined
      consume g take upToPlain (← switches.foldlM (fun st s => take st s none) st) rest

end Grammar

end CommandLine

end TemplateGuard
