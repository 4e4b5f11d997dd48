import TemplateGuard.Format.Guarded
import TemplateGuard.Value

namespace TemplateGuard

namespace External

/-- What the external formatter is set to; settings are passed on as they were given. -/
structure Options where
  executable : Value := .str "prettier"
  xmlPlugin : Value := .null
  timeout : Value := .float (Double.ofDecimal false 30 0)

structure Invocation where
  arguments : List Value
  input : Text
  timeout : Value

inductive Outcome where
  | timedOut
  | notStarted (reason : String)
  | exited (code : Int) (output : Text) (complaint : Text)

/-- The system the program runs on: finding programs by name and running them, both of which may
fail in the system's own way. -/
structure Host (m : Type → Type) where
  which : Value → m (Except Failure (Option String))
  run : Invocation → m (Except Failure Outcome)

/-- The last name looked up with success and the command found for it. -/
abbrev Cache := Option (Value × List Value)

def failure (message : String) : Failure := ⟨"FormatterError", message⟩

/-- The name of the package runner that stands in for a missing program. -/
def runner : String := "npx"

variable {m : Type → Type} [Monad m]

/-- The command for a program: its own path, or the package runner told not to install it. -/
def resolve (host : Host m) (executable : Value) : m (Except Failure (List Value)) := do
  match ← host.which executable with
  | .error f => return .error f
  | .ok (some path) => return .ok [.str path]
  | .ok none =>
    match ← host.which (.str runner) with
    | .error f => return .error f
    | .ok (some path) => return .ok [.str path, .str "--no-install", executable]
    | .ok none =>
      return .error (failure (executable.display ++ " not found on PATH (and no npx)"))

/-- The command for a program, looked up only when the cache is for another name. A look-up that
fails leaves the cache as it was. -/
def command (host : Host m) (cache : Cache) (executable : Value) :
    m (Except Failure (List Value) × Cache) := do
  let lookUp : m (Except Failure (List Value) × Cache) := do
    match ← resolve host executable with
    | .error f => return (.error f, cache)
    | .ok found => return (.ok found, some (executable, found))
  match cache with
  | none => lookUp
  | some (name, found) => if name == executable then return (.ok found, cache) else lookUp

/-- What follows the command: the parser and the switches that go with it. -/
def switches (o : Options) (parser : String) : List Value :=
  [.str "--parser", .str parser] ++
    (if parser = "html" then [.str "--html-whitespace-sensitivity", .str "ignore"] else []) ++
    (if parser = "xml" ∧ o.xmlPlugin.truthy then [.str "--plugin", o.xmlPlugin] else [])

def Outcome.result (o : Options) : Outcome → Except Failure Text
  | .timedOut => .error (failure ("prettier timed out after " ++ o.timeout.text ++ "s"))
  | .notStarted reason => .error (failure ("could not run prettier: " ++ reason))
  | .exited 0 output _ => .ok output
  | .exited code _ complaint =>
    let said := Text.trim complaint
    .error (failure (if said.isEmpty then "prettier exited with " ++ toString code
      else String.ofList said))

def format (host : Host m) (o : Options) (cache : Cache) (t : Text) (parser : String) :
    m (Except Failure Text × Cache) := do
  match ← command host cache o.executable with
  | (.error f, cache) => return (.error f, cache)
  | (.ok found, cache) =>
    match ← host.run ⟨found ++ switches o parser, t, o.timeout⟩ with
    | .error f => return (.error f, cache)
    | .ok outcome => return (outcome.result o, cache)

end External

/-- The external program as a formatter that carries its cache along. -/
def externalFormatter {m : Type → Type} [Monad m] (host : External.Host m) (o : External.Options) :
    Formatter (StateT External.Cache m) :=
  fun t parser => fun cache => External.format host o cache t parser

end TemplateGuard
