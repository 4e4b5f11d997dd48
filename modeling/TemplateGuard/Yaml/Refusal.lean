import TemplateGuard.Fault
import TemplateGuard.Yaml.Cursor

namespace TemplateGuard

namespace Yaml

structure Problem where
  step : ReadingStep
  activity : Option String := none
  since : Option Mark := none
  what : String
  mark : Mark
  deriving DecidableEq, Repr

/-- A refusal with a place, or a fault that has none. -/
inductive Refusal where
  | located (p : Problem)
  | plain (f : Fault)
  deriving DecidableEq, Repr

def Mark.text (name : String) (m : Mark) : String :=
  "  in \"" ++ name ++ "\", line " ++ toString (m.line + 1) ++ ", column " ++ toString (m.column + 1)

/-- The lines about a problem; the same place is not shown twice. -/
def Problem.message (name : String) (p : Problem) : String :=
  let since := p.since.filter fun m => m.line != p.mark.line || m.column != p.mark.column
  "\n".intercalate (p.activity.toList ++ (since.map (Mark.text name)).toList ++
    [p.what, p.mark.text name])

def Refusal.fault (name : String) : Refusal → Fault
  | .located p => .unreadable p.step (p.message name)
  | .plain f => f

def badToken {α : Type} (activity : String) (since : Mark) (what : String) (mark : Mark) :
    Except Refusal α :=
  .error (.located ⟨.tokens, some activity, some since, what, mark⟩)

/-- What is said about a character that does not fit. -/
def butFound (expected : String) (c : Char) : String :=
  "expected " ++ expected ++ ", but found " ++ quoted c.toString

end Yaml

end TemplateGuard
