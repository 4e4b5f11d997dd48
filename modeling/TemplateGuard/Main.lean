import TemplateGuard.CommandLine.Run

namespace TemplateGuard

/-- A host on which no program is found. -/
def bareHost : External.Host Id where
  which _ := .ok none
  run _ := .ok (.notStarted "no programs are run")

/-- The file or folder under a path. -/
def entryAt (path : Text) : IO Entry := do
  let name := String.ofList (Path.plain path)
  try
    return .file (← IO.FS.readFile name).toList
  catch _ =>
    try
      let _ ← IO.FS.Handle.mk name .read
      return .folder
    catch
      | .inappropriateType .. => return .blocked
      | .invalidArgument .. => return .tooLong
      | _ => return .missing

/-- The path that a request reads, if any. -/
def pathOf (r : CommandLine.Request) : Option Text :=
  match r.command with
  | .restore path => path
  | .format _ => r.config
  | _ => none

end TemplateGuard

open TemplateGuard

def main (arguments : List String) : IO UInt32 := do
  let input ← match CommandLine.parse arguments with
    | .ok _ => (← IO.getStdin).readToEnd
    | .error _ => pure ""
  let entry ← match (CommandLine.parse arguments).toOption.bind pathOf with
    | some path => entryAt path
    | none => pure .missing
  let result := Id.run (CommandLine.run ⟨fun _ => entry, input.toList, bareHost⟩ arguments)
  IO.print (String.ofList result.output)
  IO.eprint result.complaint
  match result.ending with
  | .exit code => return code.toUInt32
  | .escape f =>
    IO.eprintln f.message
    return 1
