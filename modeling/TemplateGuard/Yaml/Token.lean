import TemplateGuard.Yaml.Lexeme.Name

namespace TemplateGuard

namespace Yaml

inductive TokenKind where
  | directive (d : Directive)
  | documentStart
  | documentEnd
  | streamEnd
  | blockSequence
  | blockMapping
  | blockEnd
  | openList
  | openMap
  | closeList
  | closeMap
  | key
  | value
  | entry
  | comma
  | reference (name : String)
  | anchor (name : String)
  | tag (t : WrittenTag)
  | scalar (text : Text) (plain : Bool)
  deriving DecidableEq, Repr

structure Token where
  kind : TokenKind
  start : Mark
  stop : Mark
  deriving DecidableEq, Repr

def TokenKind.name : TokenKind → String
  | .directive _ => "<directive>"
  | .documentStart => "<document start>"
  | .documentEnd => "<document end>"
  | .streamEnd => "<stream end>"
  | .blockSequence => "<block sequence start>"
  | .blockMapping => "<block mapping start>"
  | .blockEnd => "<block end>"
  | .openList => "["
  | .openMap => "\x7b"
  | .closeList => "]"
  | .closeMap => "\x7d"
  | .key => "?"
  | .value => ":"
  | .entry => "-"
  | .comma => ","
  | .reference _ => "<alias>"
  | .anchor _ => "<anchor>"
  | .tag _ => "<tag>"
  | .scalar .. => "<scalar>"

end Yaml

end TemplateGuard
