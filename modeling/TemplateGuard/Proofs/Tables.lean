import TemplateGuard.Table
import Mathlib.Data.List.Induction

namespace TemplateGuard

namespace Table

variable {α β : Type} [BEq α]

theorem ofPairs_concat (pairs : List (α × β)) (p : α × β) :
    ofPairs (pairs ++ [p]) = (ofPairs pairs).put p.1 p.2 := by
  rw [ofPairs, List.foldl_append]
  rfl

theorem find?_eq_none_iff {t : Table α β} {k : α} :
    t.find? k = none ↔ ∀ p ∈ t, (p.1 == k) = false := by
  induction t with
  | nil => simp [find?]
  | cons p t ih =>
    rw [find?, List.forall_mem_cons]
    cases h : p.1 == k with
    | true => simp
    | false => simpa using ih

/-- A key that is equal to no key but itself. Not all keys are: numbers of two types can be equal. -/
def Sharp (k : α) : Prop := ∀ a, ((a == k) = true ↔ a = k) ∧ ((k == a) = true ↔ a = k)

theorem Sharp.beq_eq_of_beq {k a b : α} (hk : Sharp k) (h : (b == a) = true) :
    (b == k) = (a == k) := by
  rw [Bool.eq_iff_iff, (hk a).1, (hk b).1]
  constructor
  · rintro rfl
    exact (hk a).2.mp h
  · rintro rfl
    exact (hk b).1.mp h

theorem find?_put_of_sharp {k : α} (hk : Sharp k) (t : Table α β) (a : α) (v : β) :
    (t.put a v).find? k = if a == k then some v else t.find? k := by
  induction t with
  | nil => rfl
  | cons p t ih =>
    obtain ⟨b, w⟩ := p
    rw [put]
    cases hba : b == a with
    | true =>
      rw [if_pos rfl, find?, find?, hk.beq_eq_of_beq hba]
      cases a == k <;> rfl
    | false =>
      have hne : ¬ ((a == k) = true ∧ (b == k) = true) := by
        rintro ⟨ha, hb⟩
        obtain rfl := (hk a).1.mp ha
        rw [hb] at hba
        contradiction
      rw [if_neg Bool.false_ne_true, find?, find?, ih]
      cases ha : a == k with
      | false => rfl
      | true =>
        cases hb : b == k with
        | false => rfl
        | true => exact absurd ⟨ha, hb⟩ hne

/-- No two of the pairs have this key. -/
def Once (k : α) (pairs : List (α × β)) : Prop := pairs.Pairwise fun p q => p.1 = k → q.1 ≠ k

theorem find?_ofPairs_eq_some_iff {k : α} (hk : Sharp k) {pairs : List (α × β)}
    (h : Once k pairs) (v : β) : (ofPairs pairs).find? k = some v ↔ (k, v) ∈ pairs := by
  induction pairs using List.reverseRecOn with
  | nil => simp [ofPairs, find?]
  | append_singleton pairs p ih =>
    obtain ⟨a, w⟩ := p
    obtain ⟨hpairs, -, hlast⟩ := List.pairwise_append.mp h
    rw [ofPairs_concat, find?_put_of_sharp hk, List.mem_append, List.mem_singleton, Prod.mk.injEq]
    by_cases ha : a = k
    · subst ha
      have hn : (a, v) ∉ pairs := fun hm => hlast _ hm (a, w) (by simp) rfl rfl
      simp [(hk a).1, hn, eq_comm]
    · have hne : (a == k) = false := Bool.eq_false_iff.mpr fun h => ha ((hk a).1.mp h)
      rw [hne]
      simpa [Ne.symm ha] using ih hpairs

/-- What is written once is found whatever the order of writing. -/
theorem find?_ofPairs_perm {k : α} (hk : Sharp k) {ps qs : List (α × β)} (hp : ps.Perm qs)
    (h : Once k ps) : (ofPairs ps).find? k = (ofPairs qs).find? k := by
  have hq : Once k qs := (hp.pairwise_iff fun hab hb ha => hab ha hb).mp h
  apply Option.ext
  intro v
  rw [find?_ofPairs_eq_some_iff hk h, find?_ofPairs_eq_some_iff hk hq]
  exact hp.mem_iff

end Table

end TemplateGuard
