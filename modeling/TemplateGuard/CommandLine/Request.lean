import TemplateGuard.CommandLine.Switch
import TemplateGuard.Format.Guarded
import TemplateGuard.Number.Numeral

namespace TemplateGuard

namespace CommandLine

inductive CommandName where
  | wrap
  | unwrap
  | format
  | mask
  | restore
  | tags
  | classify
  deriving DecidableEq, Repr

/-- A command with all that it needs. A switch may have been given without a value, which is only
found out when the value is used. -/
inductive Command where
  | wrap
  | unwrap
  | format (parser : Option ParserKind)
  | mask
  | restore (path : Option Text)
  | tags
  | classify (offset : Option Int)
  deriving DecidableEq, Repr

structure Request where
  config : Option Text
  verbose : Bool
  command : Command
  deriving DecidableEq, Repr

/-- A problem, and the command whose usage is shown with it. -/
structure UsageError where
  command : Option CommandName
  problem : Problem
  deriving DecidableEq, Repr

def program : String := "tag_shield"

namespace CommandName

def all : List CommandName := [.wrap, .unwrap, .format, .mask, .restore, .tags, .classify]

def name : CommandName → String
  | .wrap => "wrap"
  | .unwrap => "unwrap"
  | .format => "format"
  | .mask => "mask"
  | .restore => "restore"
  | .tags => "tags"
  | .classify => "classify"

def ofName? (s : String) : Option CommandName := all.find? fun c => c.name == s

end CommandName

def helpSwitch : Switch := ⟨["-h", "--help"], false⟩

def configSwitch : Switch := ⟨["--config"], true⟩

def verboseSwitch : Switch := ⟨["-v", "--verbose"], false⟩

def parserSwitch : Switch := ⟨["--parser"], true⟩

def placeholdersSwitch : Switch := ⟨["--placeholders"], true⟩

def offsetSwitch : Switch := ⟨["--offset"], true⟩

def globalGrammar : Grammar := [helpSwitch, configSwitch, verboseSwitch]

def CommandName.grammar : CommandName → Grammar
  | .format => [helpSwitch, parserSwitch]
  | .restore => [helpSwitch, placeholdersSwitch]
  | .classify => [helpSwitch, offsetSwitch]
  | _ => [helpSwitch]

def usageOf : Option CommandName → String
  | none =>
    "usage: tag_shield [-h] [--config CONFIG] [-v]\n" ++
      "                  \x7bwrap,unwrap,format,mask,restore,tags,classify\x7d ...\n"
  | some .format =>
    "usage: tag_shield format [-h] [--parser \x7bhtml,babel,typescript,xml\x7d]\n"
  | some .restore => "usage: tag_shield restore [-h] --placeholders PLACEHOLDERS\n"
  | some .classify => "usage: tag_shield classify [-h] --offset OFFSET\n"
  | some c => "usage: tag_shield " ++ c.name ++ " [-h]\n"

def UsageError.text (e : UsageError) : String :=
  let who := match e.command with
    | none => program
    | some c => program ++ " " ++ c.name
  usageOf e.command ++ who ++ ": error: " ++ e.problem.message ++ "\n"

/-- What the switches before the command have set. -/
structure Globals where
  config : Option Text := none
  verbose : Bool := false

def Globals.take (g : Globals) (s : Switch) (value : Option String) : Except Problem Globals :=
  if s = helpSwitch then .error .help
  else if s = configSwitch then .ok { g with config := value.map String.toList }
  else .ok { g with verbose := true }

/-- What the switches after the command have set; a later one wins over an earlier. A switch that
was given without a value counts as given. -/
structure Details where
  parser : Option ParserKind := some .babel
  placeholders : Option (Option Text) := none
  offset : Option (Option Int) := none

def parserValue (s : Switch) (value : String) : Except Problem ParserKind :=
  match ParserKind.ofName value with
  | .ok kind => .ok kind
  | .error _ => .error (.notChoice s.title value (ParserKind.all.map ParserKind.name))

def wholeValue (s : Switch) (value : String) : Except Problem Int :=
  match Numeral.int 10 value.toList with
  | .ok n => .ok n
  | .error _ => .error (.notWhole s value)

def Details.take (d : Details) (s : Switch) (value : Option String) : Except Problem Details :=
  if s = helpSwitch then .error .help
  else if s = parserSwitch then do return { d with parser := ← value.mapM (parserValue s) }
  else if s = placeholdersSwitch then .ok { d with placeholders := some (value.map String.toList) }
  else do return { d with offset := some (← value.mapM (wholeValue s)) }

def CommandName.complete (c : CommandName) (d : Details) : Except Problem Command :=
  match c with
  | .wrap => .ok .wrap
  | .unwrap => .ok .unwrap
  | .format => .ok (.format d.parser)
  | .mask => .ok .mask
  | .tags => .ok .tags
  | .restore =>
    match d.placeholders with
    | some path => .ok (.restore path)
    | none => .error (.missing placeholdersSwitch.title)
  | .classify =>
    match d.offset with
    | some n => .ok (.classify n)
    | none => .error (.missing offsetSwitch.title)

/-- Names the command whose usage goes with a problem. -/
def blame {α : Type} (command : Option CommandName) (r : Except Problem α) : Except UsageError α :=
  r.mapError fun p => ⟨command, p⟩

/-- The command's own switches; arguments left over are returned. -/
def CommandName.parse (c : CommandName) (arguments : List String) :
    Except Problem (Command × List String) := do
  let tokens ← c.grammar.classifyAll arguments
  let parsed ← c.grammar.consume Details.take false ({} : Details) tokens
  let command ← c.complete parsed.state
  return (command, parsed.leftOver)

/-- The first thing that is wrong ends the reading; arguments that nobody took are reported last. -/
def parse (arguments : List String) : Except UsageError Request := do
  let tokens ← blame none (globalGrammar.classifyAll arguments)
  let parsed ← blame none (globalGrammar.consume Globals.take true ({} : Globals) tokens)
  match parsed.unread with
  | [] => blame none (.error (.missing "command"))
  | name :: rest =>
    match CommandName.ofName? name with
    | none =>
      blame none (.error (.notChoice "command" name (CommandName.all.map CommandName.name)))
    | some c =>
      let (command, left) ← blame (some c) (c.parse rest)
      match parsed.leftOver ++ left with
      | [] => return ⟨parsed.state.config, parsed.state.verbose, command⟩
      | remaining => blame none (.error (.leftOver remaining))

end CommandLine

end TemplateGuard
