import TemplateGuard.Text.Quoted

namespace TemplateGuard

/-- Why a formatter gave no text: the name of the kind of failure and its message. -/
structure Failure where
  kind : String
  message : String
  deriving DecidableEq, Repr

inductive Event where
  | wrapped (count : Nat)
  | masked (count : Nat)
  | wrappedDocument (id : String)
  | formatFailed (parser : String) (failure : Failure)
  | dropped (count : Nat)
  deriving DecidableEq, Repr

namespace Event

inductive Level where
  | debug
  | warning
  | error
  deriving DecidableEq, Repr

def Level.name : Level → String
  | .debug => "DEBUG"
  | .warning => "WARNING"
  | .error => "ERROR"

/-- Progress is for debugging; a lost key is a warning and a failed formatter an error. -/
def level : Event → Level
  | wrapped _ => .debug
  | masked _ => .debug
  | wrappedDocument _ => .debug
  | formatFailed .. => .error
  | dropped _ => .warning

def source : Event → String
  | wrapped _ => "tag_shield.wrapper"
  | masked _ => "tag_shield.masking"
  | wrappedDocument _ => "tag_shield.session"
  | formatFailed .. => "tag_shield.formatter"
  | dropped _ => "tag_shield.formatter"

def message : Event → String
  | wrapped n => "wrapped " ++ toString n ++ " tag(s)"
  | masked n => "masked " ++ toString n ++ " tag(s)"
  | wrappedDocument id => "wrapped tags in " ++ id
  | formatFailed parser _ => "formatting with parser " ++ quoted parser ++ " failed"
  | dropped n => "formatter dropped " ++ toString n ++ " placeholder(s), keeping original text"

/-- The failure that an event reports, as `kind: message`. -/
def cause? : Event → Option String
  | formatFailed _ f => some (f.kind ++ ": " ++ f.message)
  | _ => none

def line (e : Event) : String := e.level.name ++ " " ++ e.source ++ ": " ++ e.message

end Event

end TemplateGuard
