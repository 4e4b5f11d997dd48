namespace TemplateGuard

/-- Pairs in insertion order; `put` never makes a key twice. -/
abbrev Table (α β : Type) := List (α × β)

namespace Table

variable {α β : Type} [BEq α]

def put : Table α β → α → β → Table α β
  | [], k, v => [(k, v)]
  | (k', v') :: rest, k, v => if k' == k then (k', v) :: rest else (k', v') :: put rest k v

def find? : Table α β → α → Option β
  | [], _ => none
  | (k', v') :: rest, k => if k' == k then some v' else find? rest k

/-- The table that writing the pairs one after the other gives. -/
def ofPairs (pairs : List (α × β)) : Table α β :=
  pairs.foldl (fun t (k, v) => t.put k v) []

def keys (t : Table α β) : List α := t.map Prod.fst

theorem find?_put [LawfulBEq α] (t : Table α β) (k k' : α) (v : β) :
    (t.put k v).find? k' = if k == k' then some v else t.find? k' := by
  induction t with
  | nil => simp [put, find?]
  | cons p rest ih =>
    obtain ⟨a, b⟩ := p
    by_cases h : a = k
    · subst h; by_cases h' : a = k' <;> simp [put, find?, h']
    · by_cases h' : k = k'
      · subst h'; simp [put, find?, h, ih]
      · by_cases h'' : a = k' <;> simp_all [put, find?]

/-- A new key goes to the end, a known one keeps its place. -/
theorem keys_put [LawfulBEq α] (t : Table α β) (k : α) (v : β) :
    (t.put k v).keys = if k ∈ t.keys then t.keys else t.keys ++ [k] := by
  induction t with
  | nil => simp [put, keys]
  | cons p rest ih =>
    obtain ⟨a, b⟩ := p
    by_cases h : a = k
    · subst h; simp [put, keys]
    · have h' : ¬k = a := fun e => h e.symm
      have e : (put ((a, b) :: rest) k v).keys = a :: (put rest k v).keys := by simp [put, keys, h]
      have e' : keys ((a, b) :: rest) = a :: keys rest := rfl
      rw [e, e', ih]
      by_cases hk : k ∈ keys rest <;> simp [hk, h']

theorem put_of_not_mem [LawfulBEq α] {t : Table α β} {k : α} (h : k ∉ t.keys) (v : β) :
    t.put k v = t ++ [(k, v)] := by
  induction t with
  | nil => rfl
  | cons p rest ih =>
    obtain ⟨a, b⟩ := p
    have hn : k ≠ a ∧ k ∉ keys rest := by simpa [keys] using h
    have hak : (a == k) = false := by simpa using Ne.symm hn.1
    rw [put, hak, ih hn.2]
    rfl

/-- If no key is there twice, looking up finds exactly the pairs of the table. -/
theorem find?_eq_some_iff [LawfulBEq α] {t : Table α β} (h : t.keys.Nodup) (k : α) (v : β) :
    t.find? k = some v ↔ (k, v) ∈ t := by
  induction t with
  | nil => simp [find?]
  | cons p rest ih =>
    obtain ⟨a, b⟩ := p
    obtain ⟨ha, hr⟩ := List.nodup_cons.mp h
    by_cases hk : a = k
    · subst hk
      have hn : (a, v) ∉ rest := fun hm => ha (List.mem_map.mpr ⟨_, hm, rfl⟩)
      simp [find?, hn, eq_comm]
    · have hak : (a == k) = false := by simpa using hk
      rw [find?, hak]
      simp [ih hr, Ne.symm hk]

end Table

end TemplateGuard
