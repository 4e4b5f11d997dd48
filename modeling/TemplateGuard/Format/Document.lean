import TemplateGuard.Format.Guarded
import TemplateGuard.Path

namespace TemplateGuard

/-- What an editor has set for formatting documents. -/
structure DocumentRules where
  enabled : Bool := true
  folderNames : List Text := ["templates".toList, "template".toList]

namespace DocumentRules

def isTemplateLanguage (language : String) : Bool :=
  language == "django-html" || language == "jinja-html"

def applies (r : DocumentRules) (path : Text) (language : String) : Bool :=
  r.enabled && (ParserKind.forLanguage? language).isSome &&
    (isTemplateLanguage language || (Path.folders path).any r.folderNames.contains)

/-- The new text of a document, or nothing if it is to stay as it is; an empty text is no result. -/
def format {m : Type → Type} [Monad m] (r : DocumentRules) (formatter : Formatter m) (path : Text)
    (language : String) (t : Text) : m (Option Text × List Event) := do
  match ParserKind.forLanguage? language with
  | none => return (none, [])
  | some kind =>
    if r.applies path language then
      let (formatted, events) ← formatWithTags formatter kind t
      return (if formatted.isEmpty || formatted == t then none else some formatted, events)
    else return (none, [])

end DocumentRules

end TemplateGuard
