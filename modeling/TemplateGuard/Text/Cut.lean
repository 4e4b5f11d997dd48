import TemplateGuard.Text.Blank

namespace TemplateGuard

/-- What a pattern takes at the head of a text: a number of characters and what it read in them. -/
structure Taken (α : Type) where
  length : Nat
  value : α

/-- A pattern decides by the whole rest of the text, so it can look past what it takes. -/
abbrev Pattern (α : Type) := Text → Option (Taken α)

/-- A text is cut into characters that start no match and the matches themselves. -/
inductive Piece (α : Type) where
  | plain (c : Char)
  | found (text : Text) (value : α)

namespace Piece

def source {α : Type} : Piece α → Text
  | .plain c => [c]
  | .found t _ => t

/-- The matches among pieces, each with the offset at which it starts. -/
def located {α : Type} : Nat → List (Piece α) → List (Nat × Text × α)
  | _, [] => []
  | n, .plain _ :: ps => located (n + 1) ps
  | n, .found t v :: ps => (n, t, v) :: located (n + t.length) ps

/-- The pieces with every match replaced by what `f` makes of it. -/
def rebuild {α : Type} (f : Text → α → Text) : List (Piece α) → Text
  | [] => []
  | .plain c :: ps => c :: rebuild f ps
  | .found t v :: ps => f t v ++ rebuild f ps

end Piece

namespace Pattern

/-- The pieces of a text after its first `skip` characters, which an earlier match took. -/
def cutAfter {α : Type} (p : Pattern α) : Nat → Text → List (Piece α)
  | _, [] => []
  | skip + 1, _ :: rest => cutAfter p skip rest
  | 0, c :: rest =>
    match p (c :: rest) with
    | none => .plain c :: cutAfter p 0 rest
    | some m => .found (c :: rest.take (m.length - 1)) m.value :: cutAfter p (m.length - 1) rest

/-- Matches are taken at the leftmost place and the search goes on right after each of them. -/
def cut {α : Type} (p : Pattern α) (t : Text) : List (Piece α) := cutAfter p 0 t

def locate {α : Type} (p : Pattern α) (t : Text) : List (Nat × Text × α) :=
  Piece.located 0 (cut p t)

def matchesIn {α : Type} (p : Pattern α) : Text → Bool
  | [] => false
  | c :: rest => (p (c :: rest)).isSome || matchesIn p rest

def replace {α : Type} (p : Pattern α) (f : Text → α → Text) (t : Text) : Text :=
  Piece.rebuild f (cut p t)

/-- Skipped characters are simply gone, so cutting can always be restarted on the rest. -/
theorem cutAfter_eq {α : Type} (p : Pattern α) (n : Nat) (t : Text) :
    cutAfter p n t = cutAfter p 0 (t.drop n) := by
  induction t generalizing n with
  | nil => cases n <;> simp [cutAfter]
  | cons c rest ih =>
    cases n with
    | zero => rfl
    | succ n => simpa [cutAfter] using ih n

/-- Cutting loses nothing: the pieces put together are the text. -/
theorem sources_cut {α : Type} (p : Pattern α) (t : Text) :
    (cut p t).flatMap Piece.source = t := by
  suffices h : ∀ n, (cutAfter p n t).flatMap Piece.source = t.drop n by simpa [cut] using h 0
  induction t with
  | nil => intro n; cases n <;> simp [cutAfter]
  | cons c rest ih =>
    intro n
    cases n with
    | succ n => simpa [cutAfter] using ih n
    | zero =>
      unfold cutAfter
      split <;> simp [Piece.source, ih, List.take_append_drop]

end Pattern

namespace Text

def hasInfix (t key : Text) : Bool :=
  match t with
  | [] => key.isEmpty
  | c :: rest => key.isPrefixOf (c :: rest) || hasInfix rest key

theorem hasInfix_iff (t key : Text) : t.hasInfix key = true ↔ key <:+: t := by
  induction t with
  | nil => simp [hasInfix]
  | cons c t ih => simp [hasInfix, ih, List.infix_cons_iff]

theorem hasInfix_eq_false_iff (t key : Text) : t.hasInfix key = false ↔ ¬ key <:+: t := by
  rw [← hasInfix_iff, Bool.not_eq_true]

/-- The pattern that takes exactly `key`. -/
def literal (key : Text) : Pattern Unit :=
  fun t => if key.isPrefixOf t then some ⟨key.length, ()⟩ else none

/-- Replaces every occurrence of `key`, found from left to right. The empty key occurs before every
character and at the end. -/
def replaceAll (t key new : Text) : Text :=
  if key.isEmpty then new ++ t.flatMap (fun c => c :: new)
  else (literal key).replace (fun _ _ => new) t

/-- The parts of a text between separators; there is one part more than there are separators. -/
def splitOn (t : Text) (separator : Char) : List Text :=
  match t with
  | [] => [[]]
  | c :: rest =>
    match splitOn rest separator with
    | [] => [[c]]
    | part :: parts => if c = separator then [] :: part :: parts else (c :: part) :: parts

end Text

end TemplateGuard
