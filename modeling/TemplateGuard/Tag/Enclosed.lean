import TemplateGuard.Tag.Span

namespace TemplateGuard

/-- How many characters on each side of a tag are looked at. -/
def enclosureReach : Nat := 10

/-- Whether the characters around a tag open a comment before it and close one after it. -/
def TagSpan.isEnclosed (t : Text) (s : TagSpan) : Bool :=
  ['*', '/'].isPrefixOf (t.between (s.start - enclosureReach) s.start).trimRight.reverse &&
    ['*', '/'].isPrefixOf (t.between s.stop (s.stop + enclosureReach)).trimLeft

/-- Whether some tag of the text stands outside comment delimiters. -/
def hasUnwrapped (t : Text) : Bool := (findTags t).any fun s => !s.isEnclosed t

end TemplateGuard
