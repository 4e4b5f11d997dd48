import TemplateGuard.Fault
import TemplateGuard.Text.Cut

namespace TemplateGuard

namespace Path

/-- The root that a path starts from: two slashes are a root of their own, any other number of
leading slashes is the same as one. -/
def root : Text → Option Text
  | '/' :: '/' :: '/' :: _ => some ['/']
  | '/' :: '/' :: _ => some ['/', '/']
  | '/' :: _ => some ['/']
  | _ => none

/-- The names along a path; empty ones and single dots say nothing. -/
def names (p : Text) : List Text :=
  (p.splitOn '/').filter fun n => !(n == [] || n == ['.'])

/-- The root, if any, and the folders that lead to the last name. -/
def folders (p : Text) : List Text := (root p).toList ++ (names p).dropLast

def plain (p : Text) : Text :=
  let body := ['/'].intercalate (names p)
  match root p with
  | some r => r ++ body
  | none => if body.isEmpty then ['.'] else body

end Path

/-- What a file system has under a path: a file, a folder, nothing, nothing because a file stands
where a folder is needed, or nothing because the path or one of its names is too long. -/
inductive Entry where
  | file (content : Text)
  | folder
  | missing
  | blocked
  | tooLong
  deriving DecidableEq, Repr

namespace Entry

/-- Every line end as a line feed: a carriage return alone, or with a line feed, is one too. -/
def unifyNewlines : Text → Text
  | '\r' :: '\n' :: rest => '\n' :: unifyNewlines rest
  | '\r' :: rest => '\n' :: unifyNewlines rest
  | c :: rest => c :: unifyNewlines rest
  | [] => []

/-- The text of a file; a fault names the path in its plainest spelling. No file can have a path
with a null character. -/
def text (path : Text) (e : Entry) : Except Fault Text :=
  if path.contains '\x00' then .error (.malformed "embedded null byte")
  else
    match e with
    | .file content => .ok (unifyNewlines content)
    | .folder => .error (.directory (String.ofList (Path.plain path)))
    | .missing => .error (.missingFile (String.ofList (Path.plain path)))
    | .blocked => .error (.notFolder (String.ofList (Path.plain path)))
    | .tooLong => .error (.longName (String.ofList (Path.plain path)))

end Entry

/-- The files under a working folder, by their paths. -/
abbrev Files := List (Text × Text)

namespace Files

/-- Where a path has led to: some names below the working folder or below the root, or a folder above
the working folder, of which nothing else is known. -/
inductive Spot where
  | within (names : List Text)
  | rooted (names : List Text)
  | above
  deriving DecidableEq, Repr

/-- The most bytes of one name. -/
def maxName : Nat := 255

/-- The most bytes of a path. -/
def maxPath : Nat := 4095

def bytes (t : Text) : Nat := (String.ofList t).utf8ByteSize

/-- The folders that every system has at its root. -/
def rootFolders : List String :=
  ["bin", "boot", "dev", "etc", "home", "lib", "media", "mnt", "opt", "proc", "root", "run", "sbin",
   "srv", "sys", "tmp", "usr", "var"]

/-- What every system has under its root: its folders, and the device that is always empty. -/
def system (names : List Text) : Entry :=
  match names.map String.ofList with
  | [] => .folder
  | [name] => if rootFolders.contains name then .folder else .missing
  | ["dev", "null"] => .file []
  | _ => .missing

/-- What stands at a spot; a folder is there if a file is below it. -/
def at? (fs : Files) : Spot → Entry
  | .above => .folder
  | .rooted names => system names
  | .within [] => .folder
  | .within names =>
    match fs.find? fun (path, _) => Path.names path == names with
    | some (_, content) => .file content
    | none => if fs.any fun (path, _) => names.isPrefixOf (Path.names path) then .folder else .missing

/-- The spot one name further, if it is known; two dots lead up. -/
def Spot.enter (name : Text) : Spot → Option Spot
  | .within names =>
    if name == ['.', '.'] then some (if names.isEmpty then .above else .within names.dropLast)
    else some (.within (names ++ [name]))
  | .rooted names => some (.rooted (if name == ['.', '.'] then names.dropLast else names ++ [name]))
  | .above => if name == ['.', '.'] then some .above else none

/-- Follows names one after the other from a spot. -/
def walk (fs : Files) : Spot → List Text → Entry
  | spot, [] => at? fs spot
  | spot, name :: rest =>
    match at? fs spot with
    | .folder =>
      if maxName < bytes name then .tooLong
      else
        match spot.enter name with
        | some next => walk fs next rest
        | none => .missing
    | .file _ => .blocked
    | e => e

def entry (fs : Files) (path : Text) : Entry :=
  if maxPath < bytes (Path.plain path) then .tooLong
  else walk fs (if (Path.root path).isSome then .rooted [] else .within []) (Path.names path)

end Files

end TemplateGuard
