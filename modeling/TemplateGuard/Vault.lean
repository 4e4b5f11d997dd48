import TemplateGuard.Table
import TemplateGuard.Text.Cut

namespace TemplateGuard

/-- A key and the piece of text it stands for. -/
structure Placeholder where
  key : Text
  covered : Text
  deriving DecidableEq, Repr

namespace Placeholder

/-- Keys read `__DJANGO_<kind>_<n>__`, so that formatters keep them as identifiers. -/
def keyOf (kind : Text) (n : Nat) : Text :=
  "__DJANGO_".toList ++ kind ++ ['_'] ++ Nat.toDigits 10 n ++ ['_', '_']

def wrappedKind : Text := "WRAPPED".toList

def bareKind : Text := "PLACEHOLDER".toList

/-- The text with every occurrence of the key replaced by the piece it stands for. -/
def expand (t : Text) (p : Placeholder) : Text :=
  if t.hasInfix p.key then t.replaceAll p.key p.covered else t

end Placeholder

/-- Expands the placeholders one after the other, those with longer keys first and otherwise in the
order given. -/
def restore (t : Text) (ps : List Placeholder) : Text :=
  (ps.mergeSort fun a b => decide (b.key.length ≤ a.key.length)).foldl Placeholder.expand t

/-- Placeholders in order of creation, the look-up table of their keys, and the next number. -/
structure Vault where
  placeholders : List Placeholder := []
  table : Table Text Text := []
  counter : Nat := 0
  deriving DecidableEq, Repr

namespace Vault

def size (v : Vault) : Nat := v.placeholders.length

/-- Mints a new key for this occurrence of `covered`. -/
def create (v : Vault) (kind covered : Text) : Placeholder × Vault :=
  let p : Placeholder := ⟨Placeholder.keyOf kind v.counter, covered⟩
  (p, { placeholders := v.placeholders ++ [p],
        table := v.table.put p.key covered,
        counter := v.counter + 1 })

def lookup (v : Vault) (key : Text) : Option Text := v.table.find? key

/-- What the table holds, as pairs of a key and the piece that it stands for. -/
def dump (v : Vault) : Table Text Text := v.table

def rehydrate (v : Vault) (t : Text) : Text := restore t v.placeholders

def clear (_ : Vault) : Vault := {}

end Vault

end TemplateGuard
