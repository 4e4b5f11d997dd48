import TemplateGuard.Format.External
import TemplateGuard.Path
import TemplateGuard.Session
import TemplateGuard.Yaml.Reader

namespace TemplateGuard

/-- The settings after defaults and conversions. -/
structure Settings where
  wrapTags : Bool
  enableFormatting : Bool
  folderNames : List Value
  languages : List Value
  external : External.Options

namespace Settings

/-- The sections that settings may stand in; the first one present counts. -/
def sections : List String := ["tag_shield", "djangoTemplateExtension"]

/-- An editor's spelling of a setting, and the setting's own name. -/
def aliases : List (String × String) :=
  [("wrapDjangoTagsInComments", "wrap_tags_in_comments"),
   ("enableFormatting", "enable_formatting"),
   ("templateFolderNames", "template_folder_names")]

def canonical : Value → Value
  | .str s => .str ((Table.find? aliases s).getD s)
  | v => v

/-- A false value stands for an empty map. -/
def orEmpty (v : Value) : Value := if v.truthy then v else .map []

def select (data : Value) : List String → Except Fault Value
  | [] => .ok data
  | name :: rest =>
    match data.has name with
    | .error f => .error f
    | .ok true => (data.item name).map orEmpty
    | .ok false => select data rest

def field (t : Table Value Value) (name : String) (default : Value) : Value :=
  (Table.find? t (.str name)).getD default

/-- The member of a map, or a default; other values have no members. -/
def memberOr (v : Value) (name : String) (default : Value) : Except Fault Value :=
  match v with
  | .map es => .ok (field es name default)
  | v => .error (.noMember v.typeName "get")

/-- The settings in data. Fields are converted in a fixed order, so the first that is wrong decides
the fault. -/
def ofValue (data : Value) : Except Fault Settings := do
  let chosen ← select (orEmpty data) sections
  let entries ← chosen.entries
  let t := Table.ofPairs (entries.map fun (k, v) => (canonical k, v))
  let tool := orEmpty (field t "prettier" .null)
  let folderNames ←
    (field t "template_folder_names" (.list [.str "templates", .str "template"])).elements
  let languages ← (field t "target_languages" (.list Languages.standard)).elements
  let languages ← Value.distinct [] languages
  let standard : External.Options := {}
  let executable ← memberOr tool "executable" standard.executable
  let xmlPlugin ← memberOr tool "xml_plugin" standard.xmlPlugin
  let timeout ← memberOr tool "timeout" standard.timeout
  let seconds ← timeout.toReal
  return {
    wrapTags := (field t "wrap_tags_in_comments" (.bool true)).truthy
    enableFormatting := (field t "enable_formatting" (.bool true)).truthy
    folderNames := folderNames
    languages := languages
    external := ⟨executable, xmlPlugin, .float seconds⟩ }

def ofFile (path : Text) (e : Entry) : Except Fault Settings := do
  let content ← e.text path
  let data ← Yaml.read (String.ofList (Path.plain path)) content
  ofValue data

/-- Whether data are settings already: they have a key that only converted settings have. They are
then taken as they are. -/
def isNormalized (data : Value) : Except Fault Bool := data.has "prettier_executable"

end Settings

/-- What a session is made from. -/
structure SessionOptions where
  enabled : Value
  languages : Languages

namespace SessionOptions

def ofConfig (config : Value) : Except Fault SessionOptions := do
  if ← Settings.isNormalized config then
    let enabled ← config.item "wrap_tags_in_comments"
    let languages ← config.item "target_languages"
    return ⟨enabled, .raw languages⟩
  let s ← Settings.ofValue config
  return ⟨.bool s.wrapTags, .members s.languages⟩

/-- A new session; any true value enables it. -/
def session (o : SessionOptions) : Session :=
  { enabled := o.enabled.truthy, languages := o.languages }

end SessionOptions

/-- What a document formatter is made from. -/
structure FormatterOptions where
  external : External.Options := {}
  enabled : Value := .bool true
  folderNames : Value := .list [.str "templates", .str "template"]

namespace FormatterOptions

def ofSettings (s : Settings) : FormatterOptions :=
  { external := s.external, enabled := .bool s.enableFormatting,
    folderNames := .list s.folderNames }

def ofConfig (config : Value) : Except Fault FormatterOptions := do
  if ← Settings.isNormalized config then
    let executable ← config.item "prettier_executable"
    let xmlPlugin ← config.item "prettier_xml_plugin"
    let timeout ← config.item "prettier_timeout"
    let enabled ← config.item "enable_formatting"
    let folderNames ← config.item "template_folder_names"
    return ⟨⟨executable, xmlPlugin, timeout⟩, enabled, folderNames⟩
  return ofSettings (← Settings.ofValue config)

/-- Options of the external program by name; an unknown name is a fault, and so is the name that the
formatter itself goes by. -/
def externalOf : External.Options → List (String × Value) → Except Fault External.Options
  | o, [] => .ok o
  | o, (name, v) :: rest =>
    match name with
    | "executable" => externalOf { o with executable := v } rest
    | "xml_plugin" => externalOf { o with xmlPlugin := v } rest
    | "timeout" => externalOf { o with timeout := v } rest
    | "self" => .error (.repeatedOption "PrettierFormatter.__init__" name)
    | _ => .error (.unknownOption name)

def optionName : Value → Except Fault String
  | .str s => .ok s
  | _ => .error .optionName

/-- What named options make; the name that the maker itself goes by is taken before all others. -/
def ofNamed (options : List (Value × Value)) : Except Fault FormatterOptions := do
  let named ← options.mapM fun (k, v) => (optionName k).map fun name => (name, v)
  if named.any fun (name, _) => name == "cls" then
    throw (.repeatedOption "MaskedFormatter.create" "cls")
  return { external := ← externalOf {} named }

end FormatterOptions

end TemplateGuard
