import TemplateGuard.Event
import TemplateGuard.Fault
import TemplateGuard.Masking

namespace TemplateGuard

inductive ParserKind where
  | html
  | babel
  | typescript
  | xml
  deriving DecidableEq, Repr

namespace ParserKind

def all : List ParserKind := [.html, .babel, .typescript, .xml]

def name : ParserKind → String
  | .html => "html"
  | .babel => "babel"
  | .typescript => "typescript"
  | .xml => "xml"

def ofName (s : String) : Except Fault ParserKind :=
  match all.find? fun k => k.name == s with
  | some k => .ok k
  | none => .error (.unknownParser (quoted s))

/-- Templates in HTML go to the formatter with their tags. -/
def masksTags : ParserKind → Bool
  | .html => false
  | _ => true

def forLanguage? : String → Option ParserKind
  | "django-html" => some .html
  | "jinja-html" => some .html
  | "html" => some .html
  | "javascript" => some .babel
  | "javascriptreact" => some .babel
  | "typescript" => some .typescript
  | "typescriptreact" => some .typescript
  | "xml" => some .xml
  | _ => none

theorem ofName_name (k : ParserKind) : ofName k.name = .ok k := by
  cases k <;> rfl

end ParserKind

/-- A formatter takes a text and a parser's name, and may fail. -/
abbrev Formatter (m : Type → Type) := Text → String → m (Except Failure Text)

namespace Guarded

/-- What the formatter is given, with the placeholders that hide its tags. -/
def prepare (kind : ParserKind) (t : Text) : Masked :=
  if kind.masksTags then mask t else ⟨t, []⟩

/-- The keys that a formatter's answer no longer has. -/
def lost (m : Masked) (answer : Text) : List Placeholder :=
  m.placeholders.filter fun p => !answer.hasInfix p.key

/-- The text that a formatter's answer leads to: restored if no key is lost, else the text as it
was, with the reason. -/
def finish (kind : ParserKind) (t : Text) (m : Masked) (answer : Except Failure Text) :
    Text × List Event :=
  match answer with
  | .error f => (t, [.formatFailed kind.name f])
  | .ok formatted =>
    match (lost m formatted).length with
    | 0 => (restore formatted m.placeholders, [])
    | n + 1 => (t, [.dropped (n + 1)])

def announced (kind : ParserKind) (m : Masked) : List Event :=
  if kind.masksTags then [.masked m.placeholders.length] else []

end Guarded

def formatWithTags {m : Type → Type} [Monad m] (formatter : Formatter m) (kind : ParserKind)
    (t : Text) : m (Text × List Event) := do
  let masked := Guarded.prepare kind t
  let answer ← formatter masked.text kind.name
  let (result, events) := Guarded.finish kind t masked answer
  return (result, Guarded.announced kind masked ++ events)

end TemplateGuard
