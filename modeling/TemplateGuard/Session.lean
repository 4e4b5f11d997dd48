import TemplateGuard.Event
import TemplateGuard.Tag.Enclosed
import TemplateGuard.Value
import TemplateGuard.Wrapping

namespace TemplateGuard

/-- The languages whose documents are wrapped: a set, or whatever value the settings gave. -/
inductive Languages where
  | members (items : List Value)
  | raw (v : Value)

namespace Languages

/-- The languages that are wrapped unless the settings say otherwise. -/
def standard : List Value :=
  [.str "typescript", .str "javascript", .str "typescriptreact", .str "javascriptreact"]

/-- Whether a language is among them; a raw value is searched as values are. -/
def has (l : Languages) (language : String) : Except Fault Bool :=
  match l with
  | .members items => .ok (items.any (Value.same (.str language)))
  | .raw v => v.has language

end Languages

structure Session where
  enabled : Bool := true
  languages : Languages := .members Languages.standard
  /-- The documents wrapped and not yet given back. -/
  wrapped : List String := []
  /-- Whether some document is between being asked for its saved form and having been saved. -/
  saving : Bool := false

inductive Action where
  | opened (id language : String) (text : Text)
  | willSave (id language : String) (text : Text)
  | didSave (id language : String) (text : Text)
  | wrapDocument (id : String) (text : Text)
  | unwrapDocument (id : String) (text : Text)
  | forget (id : String)
  | setEnabled (enabled : Bool)
  | isWrapped (id : String)
  | isTarget (language : String)
  deriving DecidableEq, Repr

/-- What an action is answered with. -/
inductive Answer where
  | nothing
  | replacement (text : Text)
  | changed (text : Text) (changed : Bool)
  | flag (b : Bool)
  deriving DecidableEq, Repr

namespace Session

/-- The answer to an action, the session after it, and what was reported. -/
structure Reply where
  answer : Answer
  session : Session
  events : List Event := []

def isWrapped (s : Session) (id : String) : Bool := s.wrapped.contains id

def record (s : Session) (id : String) : Session :=
  if s.isWrapped id then s else { s with wrapped := s.wrapped ++ [id] }

def forget (s : Session) (id : String) : Session :=
  { s with wrapped := s.wrapped.filter (· != id) }

/-- Wraps a document's text if some tag needs it. The quick test on enclosed tags comes first, so
nothing is wrapped, or reported, when it finds none. -/
def rewrap (s : Session) (id : String) (t : Text) : Reply :=
  if hasUnwrapped t then
    let w := wrap t
    if w = t then { answer := .nothing, session := s, events := [.wrapped (wrapCount t)] }
    else { answer := .replacement w, session := s.record id,
           events := [.wrapped (wrapCount t), .wrappedDocument id] }
  else { answer := .nothing, session := s }

/-- A freshly opened document is wrapped, unless a save is going on. -/
def opened (s : Session) (id language : String) (t : Text) : Except Fault Reply := do
  if !s.enabled || s.saving then return { answer := .nothing, session := s }
  if ← s.languages.has language then return s.rewrap id t
  return { answer := .nothing, session := s }

/-- Before a save a wrapped document is given its bare text. -/
def willSave (s : Session) (id language : String) (t : Text) : Except Fault Reply := do
  if !s.enabled then return { answer := .nothing, session := s }
  if !(← s.languages.has language) || !s.isWrapped id then
    return { answer := .nothing, session := s }
  let u := unwrap t
  return { answer := if u = t then .nothing else .replacement u,
           session := { s with saving := true } }

/-- After a save the document is wrapped again. -/
def didSave (s : Session) (id language : String) (t : Text) : Except Fault Reply := do
  if !s.enabled || !s.saving then return { answer := .nothing, session := s }
  if ← s.languages.has language then return { s with saving := false }.rewrap id t
  return { answer := .nothing, session := s }

/-- Wraps on demand, whether the session is enabled or not. -/
def wrapDocument (s : Session) (id : String) (t : Text) : Reply :=
  let w := wrap t
  { answer := .changed w (w != t), session := if w = t then s else s.record id,
    events := [.wrapped (wrapCount t)] }

def unwrapDocument (s : Session) (id : String) (t : Text) : Reply :=
  let u := unwrap t
  { answer := .changed u (u != t), session := if u = t then s else s.forget id }

/-- Carries out one action. A fault comes only from searching the languages, before anything has
changed. -/
def act (s : Session) : Action → Except Fault Reply
  | .opened id language t => s.opened id language t
  | .willSave id language t => s.willSave id language t
  | .didSave id language t => s.didSave id language t
  | .wrapDocument id t => .ok (s.wrapDocument id t)
  | .unwrapDocument id t => .ok (s.unwrapDocument id t)
  | .forget id => .ok { answer := .nothing, session := s.forget id }
  | .setEnabled b => .ok { answer := .nothing, session := { s with enabled := b } }
  | .isWrapped id => .ok { answer := .flag (s.isWrapped id), session := s }
  | .isTarget language => (s.languages.has language).map fun b => { answer := .flag b, session := s }

end Session

end TemplateGuard
