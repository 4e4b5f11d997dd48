import TemplateGuard.Text.Blank

namespace TemplateGuard

inductive TagKind where
  | tag
  | variable
  | comment
  deriving DecidableEq, Repr

namespace TagKind

def name : TagKind → String
  | .tag => "tag"
  | .variable => "variable"
  | .comment => "comment"

/-- The second character of the opener. -/
def openMark : TagKind → Char
  | .tag => '%'
  | .variable => '{'
  | .comment => '#'

/-- The first character of the closer. -/
def closeMark : TagKind → Char
  | .tag => '%'
  | .variable => '}'
  | .comment => '#'

def opener (k : TagKind) : Text := ['{', k.openMark]

def closer (k : TagKind) : Text := [k.closeMark, '}']

/-- The kind whose opener has this second character. -/
def ofMark? : Char → Option TagKind
  | '%' => some .tag
  | '{' => some .variable
  | '#' => some .comment
  | _ => none

/-- The kind of a tag, told by its first two characters alone. -/
def ofTag? : Text → Option TagKind
  | '{' :: m :: _ => ofMark? m
  | _ => none

theorem ofMark?_eq_some_iff {c : Char} {k : TagKind} : ofMark? c = some k ↔ c = k.openMark := by
  constructor
  · intro h
    unfold ofMark? at h
    split at h <;> simp_all [openMark] <;> subst h <;> rfl
  · rintro rfl
    cases k <;> rfl

theorem ofTag?_eq_some_iff {t : Text} {k : TagKind} :
    ofTag? t = some k ↔ ∃ rest, t = k.opener ++ rest := by
  constructor
  · intro h
    unfold ofTag? at h
    split at h
    · next m rest => exact ⟨rest, by rw [ofMark?_eq_some_iff] at h; simp [opener, h]⟩
    · simp at h
  · rintro ⟨rest, rfl⟩
    cases k <;> rfl

end TagKind

end TemplateGuard
