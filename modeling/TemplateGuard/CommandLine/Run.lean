import TemplateGuard.CommandLine.Request
import TemplateGuard.Config
import TemplateGuard.PlaceholderFile

namespace TemplateGuard

namespace CommandLine

/-- What a command line is run in. -/
structure Surroundings (m : Type → Type) where
  entry : Text → Entry
  input : Text
  host : External.Host m

/-- How a run ends: with an exit code, or with a fault that is not the user's to mend. -/
inductive Ending where
  | exit (code : Nat)
  | escape (fault : Fault)
  deriving DecidableEq, Repr

structure Result where
  ending : Ending
  output : Text := []
  complaint : String := ""
  deriving DecidableEq, Repr

/-- Faults that come from what the user gave are reported; the others are let through. -/
def isReported (f : Fault) : Bool :=
  match f.faultClass with
  | .attribute => false
  | .index => false
  | .overflow => false
  | .recursion => false
  | .reading _ => false
  | _ => true

/-- The lines that an event is reported with: warnings and errors, and all events on demand. -/
def eventLines (verbose : Bool) (e : Event) : String :=
  if verbose || e.level != .debug then
    e.line ++ "\n" ++ (match e.cause? with
      | some cause => cause ++ "\n"
      | none => "")
  else ""

def tagValue (s : TagSpan) (c : Context) : Value :=
  .map [(.str "start", .int s.start), (.str "end", .int s.stop),
    (.str "kind", .str s.kind.name), (.str "text", .str (String.ofList s.text)),
    (.str "context", .str c.name)]

def tagsValue (t : Text) : Value :=
  .list (((findTags t).zip (tagContexts t)).map fun (s, c) => tagValue s c)

/-- The type of what stands for a switch that was given without a value. -/
def noValueType : String := (Value.list []).typeName

/-- A text for the output, where no half can be written. -/
def printed (t : LooseText) : Except Fault Text := t.encode.mapError .unwritable

def restoreFrom (path : Text) (e : Entry) (t : Text) : Except Fault Text := do
  let content ← e.text path
  let data ← Json.read content
  let restored ← PlaceholderFile.apply data t
  printed restored

def classified (offset : Int) (t : Text) : Except Fault Text :=
  match TemplateGuard.classify t offset with
  | .ok c => .ok (c.name.toList ++ ['\n'])
  | .error e => .error (.outOfRange e)

/-- The settings that a command line names; an empty path names none. -/
def settings (config : Option Text) (entry : Text → Entry) : Except Fault Settings :=
  match config with
  | some (c :: path) => Settings.ofFile (c :: path) (entry (c :: path))
  | _ => Settings.ofValue (.map [])

variable {m : Type → Type} [Monad m]

/-- What a command prints, and what it reports while it works. -/
def execute (s : Surroundings m) (r : Request) : m (Except Fault Text × List Event) := do
  let t := s.input
  match r.command with
  | .wrap => return (.ok (wrap t), [.wrapped (wrapCount t)])
  | .unwrap => return (.ok (unwrap t), [])
  | .format parser =>
    match settings r.config s.entry with
    | .error f => return (.error f, [])
    | .ok found =>
      match parser with
      | none => return (.error (.unknownParser (Value.list []).display), [])
      | some kind =>
        let formatter := externalFormatter s.host found.external
        let ((formatted, events), _) ← (formatWithTags formatter kind t).run none
        return (.ok formatted, events)
  | .mask =>
    let masked := mask t
    return (.ok ((Json.compact (PlaceholderFile.ofMasked masked)).toList ++ ['\n']),
      [.masked masked.placeholders.length])
  | .restore none => return (.error (.notPath noValueType), [])
  | .restore (some path) => return (restoreFrom path (s.entry path) t, [])
  | .tags => return (.ok ((Json.indented 0 (tagsValue t)).toList ++ ['\n']), [])
  | .classify none => return (.error (.notOrdered noValueType), [])
  | .classify (some offset) => return (classified offset t, [])

/-- What is printed for the outcome of a command. -/
def conclude (verbose : Bool) (outcome : Except Fault Text) (events : List Event) : Result :=
  let reported := String.join (events.map (eventLines verbose))
  match outcome with
  | .ok output => { ending := .exit 0, output := output, complaint := reported }
  | .error f =>
    if isReported f then
      { ending := .exit 1, complaint := reported ++ program ++ ": " ++ f.message ++ "\n" }
    else { ending := .escape f, complaint := reported }

def run (s : Surroundings m) (arguments : List String) : m Result := do
  match parse arguments with
  | .error ⟨command, .help⟩ => return { ending := .exit 0, output := (usageOf command).toList }
  | .error e => return { ending := .exit 2, complaint := e.text }
  | .ok r =>
    let (outcome, events) ← execute s r
    return conclude r.verbose outcome events

end CommandLine

end TemplateGuard
