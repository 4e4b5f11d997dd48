import Mathlib.Data.List.Nodup
import TemplateGuard.Masking
import TemplateGuard.Proofs.Masking.Keys

namespace TemplateGuard

/-- The number in a key: the stretch without an underscore before the last two characters. -/
def Placeholder.numberOf (key : Text) : Nat :=
  Nat.ofDigitChars 10 ((key.reverse.drop 2).takeWhile (· != '_')).reverse 0

theorem Placeholder.numberOf_keyOf (kind : Text) (n : Nat) : numberOf (keyOf kind n) = n := by
  have hk : (keyOf kind n).reverse = '_' :: '_' ::
      ((Nat.toDigits 10 n).reverse ++ '_' :: ("__DJANGO_".toList ++ kind).reverse) := by
    unfold keyOf
    generalize "__DJANGO_".toList ++ kind = start
    simp
  have hd : '_' ∉ (Nat.toDigits 10 n).reverse := by
    rw [List.mem_reverse]
    exact Nat.underscore_not_in_toDigits
  rw [numberOf, hk, List.drop_succ_cons, List.drop_succ_cons, List.drop_zero,
    takeWhile_of_not_mem hd, List.reverse_reverse]
  simp

namespace Vault

/-- What can be done to a vault. -/
inductive Call where
  | create (kind covered : Text)
  | mask (t : Text)
  | clear
  deriving DecidableEq, Repr

def next (v : Vault) : Call → Vault
  | .create kind covered => (v.create kind covered).2
  | .mask t => (v.mask t).2
  | .clear => v.clear

/-- The vault after calls, made one after the other. -/
def after (v : Vault) (calls : List Call) : Vault := calls.foldl next v

/-- The counter is the number of placeholders, they are numbered in their order, and the table has
their keys and pieces in the same order. -/
structure Agrees (v : Vault) : Prop where
  counter : v.counter = v.size
  numbered : ∀ i p, v.placeholders[i]? = some p → ∃ kind, p.key = Placeholder.keyOf kind i
  table : v.table = v.placeholders.map fun p => (p.key, p.covered)

namespace Agrees

variable {v : Vault}

theorem empty : Agrees {} := ⟨rfl, by simp, rfl⟩

/-- The numbers of the keys are those below the counter, each once. -/
theorem numbers (h : v.Agrees) :
    (v.placeholders.map fun p => Placeholder.numberOf p.key) = List.range v.size := by
  refine List.ext_getElem? fun i => ?_
  rw [List.getElem?_map]
  cases hp : v.placeholders[i]? with
  | none =>
    have hi : v.size ≤ i := List.getElem?_eq_none_iff.mp hp
    rw [List.getElem?_eq_none (by simpa using hi)]
    rfl
  | some p =>
    obtain ⟨hi, -⟩ := List.getElem?_eq_some_iff.mp hp
    obtain ⟨kind, hk⟩ := h.numbered i p hp
    rw [size, List.getElem?_range hi, Option.map_some, hk, Placeholder.numberOf_keyOf]

theorem nodup_keys (h : v.Agrees) : (v.placeholders.map Placeholder.key).Nodup := by
  refine List.Nodup.of_map Placeholder.numberOf ?_
  rw [List.map_map]
  exact h.numbers ▸ List.nodup_range

theorem keys_dump (h : v.Agrees) : v.dump.keys = v.placeholders.map Placeholder.key := by
  rw [dump, h.table, Table.keys, List.map_map]
  rfl

theorem lookup_eq_some_iff (h : v.Agrees) (key covered : Text) :
    v.lookup key = some covered ↔ ⟨key, covered⟩ ∈ v.placeholders := by
  have hn : v.table.keys.Nodup := h.keys_dump ▸ h.nodup_keys
  rw [lookup, Table.find?_eq_some_iff hn, h.table, List.mem_map]
  constructor
  · rintro ⟨p, hp, he⟩
    obtain ⟨rfl, rfl⟩ := Prod.mk.inj he
    exact hp
  · exact fun hp => ⟨_, hp, rfl⟩

/-- The next key is none of those that are there, whatever its kind. -/
theorem keyOf_counter_not_mem (h : v.Agrees) (kind : Text) :
    Placeholder.keyOf kind v.counter ∉ v.table.keys := by
  rw [show v.table.keys = _ from h.keys_dump]
  intro hm
  have hn : v.counter ∈ v.placeholders.map fun p => Placeholder.numberOf p.key := by
    have hm' := List.mem_map_of_mem (f := Placeholder.numberOf) hm
    rwa [Placeholder.numberOf_keyOf, List.map_map] at hm'
  rw [h.numbers, List.mem_range, h.counter] at hn
  exact absurd hn (Nat.lt_irrefl _)

theorem create (h : v.Agrees) (kind covered : Text) : (v.create kind covered).2.Agrees := by
  refine ⟨?counter, ?numbered, ?table⟩
  case counter => simp [Vault.create, size, h.counter]
  case numbered =>
    intro i p hp
    rw [Vault.create, List.getElem?_append] at hp
    split at hp
    · exact h.numbered i p hp
    · next hi =>
      obtain ⟨hz, rfl⟩ := List.getElem?_eq_some_iff.mp hp
      have hc : v.counter = i := by
        have hs : v.counter = v.placeholders.length := h.counter
        simp only [List.length_singleton] at hz
        omega
      exact ⟨kind, by simp [hc]⟩
  case table =>
    have ht : (v.create kind covered).2.table =
        v.table ++ [(Placeholder.keyOf kind v.counter, covered)] :=
      Table.put_of_not_mem (h.keyOf_counter_not_mem kind) covered
    rw [ht, h.table]
    simp [Vault.create]

end Agrees

/-- What minting a key keeps, a pass of masking keeps. -/
theorem substitute_keeps {α : Type} {P : Vault → Prop}
    (hP : ∀ v kind covered, P v → P (v.create kind covered).2) (kind : Text)
    (ps : List (Piece α)) {v : Vault} (h : P v) : P (v.substitute kind ps).2 := by
  induction ps generalizing v with
  | nil => exact h
  | cons p ps ih =>
    cases p with
    | plain c => exact ih h
    | found s _ => exact ih (hP v kind s h)

theorem mask_keeps {P : Vault → Prop} (hP : ∀ v kind covered, P v → P (v.create kind covered).2)
    {v : Vault} (h : P v) (t : Text) : P (v.mask t).2 :=
  substitute_keeps hP _ _ (substitute_keeps hP _ _ h)

/-- A call of masking adds the placeholders that it returns and leaves those before them alone. -/
theorem placeholders_mask (v : Vault) (t : Text) :
    (v.mask t).2.placeholders = v.placeholders ++ (v.mask t).1.placeholders := by
  have hp : v.placeholders <+: (v.mask t).2.placeholders :=
    mask_keeps (P := fun u => v.placeholders <+: u.placeholders)
      (fun _ _ _ h => h.trans (List.prefix_append _ _)) (List.prefix_refl _) t
  exact (List.prefix_iff_eq_append.mp hp).symm

theorem Agrees.next {v : Vault} (h : v.Agrees) (c : Call) : (v.next c).Agrees := by
  cases c with
  | create kind covered => exact h.create kind covered
  | mask t => exact mask_keeps (fun _ kind covered hv => hv.create kind covered) h t
  | clear => exact .empty

theorem Agrees.after {v : Vault} (h : v.Agrees) (calls : List Call) : (v.after calls).Agrees := by
  induction calls generalizing v with
  | nil => exact h
  | cons c calls ih => exact ih (h.next c)

/-- After any calls the counter, the list, the dumped table and looking up agree: there are as many
entries as the counter says, no key is there twice, each key has the number of its place, and
exactly the pairs of the list are found. The next call adds to the end of the list: creating adds one
placeholder with the next number, masking those that it returns. -/
theorem agreement_after (calls : List Call) :
    let v := ({} : Vault).after calls
    v.counter = v.size ∧
    (v.placeholders.map Placeholder.key).Nodup ∧
    (∀ i p, v.placeholders[i]? = some p → ∃ kind, p.key = Placeholder.keyOf kind i) ∧
    v.dump.length = v.size ∧ v.dump.keys = v.placeholders.map Placeholder.key ∧
    (∀ key covered, v.lookup key = some covered ↔ ⟨key, covered⟩ ∈ v.placeholders) ∧
    (∀ kind covered, (v.create kind covered).2.placeholders =
      v.placeholders ++ [⟨Placeholder.keyOf kind v.size, covered⟩]) ∧
    ∀ t, (v.mask t).2.placeholders = v.placeholders ++ (v.mask t).1.placeholders := by
  intro v
  have h : v.Agrees := Agrees.empty.after calls
  refine ⟨h.counter, h.nodup_keys, h.numbered, ?dump, h.keys_dump, h.lookup_eq_some_iff, ?create,
    v.placeholders_mask⟩
  case dump => rw [dump, h.table, List.length_map, size]
  case create =>
    intro kind covered
    rw [← h.counter]
    rfl

/-- Kinds that look like the end of a key, and a number that is used again after clearing. -/
example :
    let v := ({} : Vault).after [.create "A".toList "x".toList, .clear,
      .create "PLACEHOLDER_1__".toList "a".toList, .mask "\x7b\x7b b \x7d\x7d".toList,
      .create "0".toList "c".toList]
    v.placeholders.map Placeholder.key = ["__DJANGO_PLACEHOLDER_1___0__".toList,
      "__DJANGO_PLACEHOLDER_1__".toList, "__DJANGO_0_2__".toList] := by
  decide +kernel

end Vault

end TemplateGuard
