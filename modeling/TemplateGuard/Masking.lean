import TemplateGuard.Tag.Wrapped
import TemplateGuard.Vault

namespace TemplateGuard

/-- A masked text and the placeholders made for it, in order of creation. -/
structure Masked where
  text : Text
  placeholders : List Placeholder
  deriving DecidableEq, Repr

/-- What each key of a masked text stands for. -/
def Masked.keyMap (m : Masked) : Table Text Text :=
  Table.ofPairs (m.placeholders.map fun p => (p.key, p.covered))

namespace Vault

/-- Puts a new key of the given kind in the place of every match. -/
def substitute {α : Type} (v : Vault) (kind : Text) : List (Piece α) → Text × Vault
  | [] => ([], v)
  | .plain c :: ps =>
    let (t, next) := substitute v kind ps
    (c :: t, next)
  | .found s _ :: ps =>
    let (p, minted) := v.create kind s
    let (t, next) := substitute minted kind ps
    (p.key ++ t, next)

/-- Masks a text with keys of this vault, which keeps counting from where it stands: wrapped tags go
first, with their comment delimiters, and then the tags of what is left. -/
def mask (v : Vault) (t : Text) : Masked × Vault :=
  let (once, v1) := v.substitute Placeholder.wrappedKind (Wrapped.pattern.cut t)
  let (twice, v2) := v1.substitute Placeholder.bareKind (Tag.pattern.cut once)
  (⟨twice, v2.placeholders.drop v.size⟩, v2)

end Vault

/-- Masks a text with a vault of its own. -/
def mask (t : Text) : Masked := (({} : Vault).mask t).1

end TemplateGuard
