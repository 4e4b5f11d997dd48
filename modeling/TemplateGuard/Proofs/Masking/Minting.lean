import TemplateGuard.Masking
import TemplateGuard.Proofs.Masking.Restoring
import TemplateGuard.Proofs.Tag.WrappedShape

namespace TemplateGuard

/-- A part of a word under masking. -/
inductive Cover where
  | kept (x : Atom)
  | hidden (u : Word)
  deriving DecidableEq, Repr

def Cover.word : Cover → Word
  | .kept x => [x]
  | .hidden u => u

/-- The word before masking. -/
def uncover (qs : List Cover) : Word := qs.flatMap Cover.word

/-- The word after masking, with references of the kind numbered from `n` on. -/
def mint (k : KeyKind) : Nat → List Cover → Word
  | _, [] => []
  | n, .kept x :: qs => x :: mint k n qs
  | n, .hidden _ :: qs => .ref ⟨k, n⟩ :: mint k (n + 1) qs

/-- What is recorded about the references that masking makes. -/
def entries (k : KeyKind) : Nat → List Cover → List LedgerEntry
  | _, [] => []
  | n, .kept _ :: qs => entries k n qs
  | n, .hidden u :: qs => ⟨⟨k, n⟩, u⟩ :: entries k (n + 1) qs

/-- The pieces are the text of the parts: found is what is hidden. -/
inductive Reads {α : Type} : List (Piece α) → List Cover → Prop where
  | nil : Reads [] []
  | char (c : Char) {ps : List (Piece α)} {qs : List Cover} : Reads ps qs →
    Reads (.plain c :: ps) (.kept (.char c) :: qs)
  | ref (r : Ref) {ps : List (Piece α)} {qs : List Cover} : Reads ps qs →
    Reads (r.key.map .plain ++ ps) (.kept (.ref r) :: qs)
  | hidden (u : Word) (v : α) {ps : List (Piece α)} {qs : List Cover} : Reads ps qs →
    Reads (.found (render u) v :: ps) (.hidden u :: qs)

namespace Vault

variable {α : Type}

theorem substitute_plain (v : Vault) (kind : Text) (t : Text) (ps : List (Piece α)) :
    v.substitute kind (t.map .plain ++ ps) =
      (t ++ (v.substitute kind ps).1, (v.substitute kind ps).2) := by
  induction t with
  | nil => rfl
  | cons c t ih =>
    rw [List.map_cons, List.cons_append, substitute, ih]
    rfl

/-- A pass over the pieces mints on the word. -/
theorem substitute_eq {ps : List (Piece α)} {qs : List Cover} (h : Reads ps qs) (k : KeyKind)
    (v : Vault) :
    (v.substitute k.name ps).1 = render (mint k v.counter qs) ∧
    (v.substitute k.name ps).2.placeholders =
      v.placeholders ++ (entries k v.counter qs).map LedgerEntry.placeholder ∧
    (v.substitute k.name ps).2.counter = v.counter + (entries k v.counter qs).length := by
  induction h generalizing v with
  | nil => simp [substitute, mint, entries]
  | char c _ ih =>
    obtain ⟨ht, hp, hc⟩ := ih v
    exact ⟨congrArg (c :: ·) ht, hp, hc⟩
  | ref r _ ih =>
    obtain ⟨ht, hp, hc⟩ := ih v
    rw [substitute_plain]
    exact ⟨congrArg (r.key ++ ·) ht, hp, hc⟩
  | hidden u x _ ih =>
    obtain ⟨ht, hp, hc⟩ := ih (v.create k.name (render u)).2
    refine ⟨congrArg (Ref.key ⟨k, v.counter⟩ ++ ·) ht, ?_, ?_⟩
    · rw [substitute]
      exact hp.trans (by simp [create, entries, LedgerEntry.placeholder, Ref.key])
    · rw [substitute]
      exact hc.trans (by simp only [create, entries, List.length_cons]; omega)

end Vault

theorem uncover_cons (q : Cover) (qs : List Cover) : uncover (q :: qs) = q.word ++ uncover qs := rfl

theorem infix_of_hidden {u : Word} {qs : List Cover} (h : .hidden u ∈ qs) : u <:+: uncover qs := by
  obtain ⟨a, b, rfl⟩ := List.append_of_mem h
  exact ⟨uncover a, uncover b, by simp [uncover, Cover.word]⟩

theorem of_mem_entries {k : KeyKind} {n : Nat} {qs : List Cover} {e : LedgerEntry}
    (h : e ∈ entries k n qs) : e.ref.kind = k ∧ n ≤ e.ref.number ∧
      e.ref.number < n + (entries k n qs).length ∧ .hidden e.word ∈ qs := by
  induction qs generalizing n with
  | nil => simp [entries] at h
  | cons q qs ih =>
    cases q with
    | kept x =>
      obtain ⟨hk, hl, hu, hm⟩ := ih h
      exact ⟨hk, hl, hu, List.mem_cons_of_mem _ hm⟩
    | hidden u =>
      rw [entries, List.length_cons]
      rcases List.mem_cons.mp h with rfl | he
      · exact ⟨rfl, Nat.le_refl n, by simp, List.mem_cons_self⟩
      · obtain ⟨hk, hl, hu, hm⟩ := ih he
        exact ⟨hk, by omega, by omega, List.mem_cons_of_mem _ hm⟩

theorem entries_pairwise (k : KeyKind) (n : Nat) (qs : List Cover) :
    (entries k n qs).Pairwise fun e e' => e.ref ≠ e'.ref := by
  induction qs generalizing n with
  | nil => exact .nil
  | cons q qs ih =>
    cases q with
    | kept x => exact ih n
    | hidden u =>
      refine List.pairwise_cons.mpr ⟨?_, ih (n + 1)⟩
      intro e he hr
      have hl := (of_mem_entries he).2.1
      rw [← hr] at hl
      exact absurd hl (by simp)

theorem entries_unique {k : KeyKind} {n : Nat} {qs : List Cover} {e e' : LedgerEntry}
    (h : e ∈ entries k n qs) (h' : e' ∈ entries k n qs) (hr : e.ref = e'.ref) : e = e' := by
  by_contra hne
  have hs : Std.Symm fun e e' : LedgerEntry => e.ref ≠ e'.ref := ⟨fun _ _ hd => hd.symm⟩
  exact (entries_pairwise k n qs).forall h h' hne hr

/-- Entries of two kinds have different references. -/
theorem ref_ne_of_kind_ne {k k' : KeyKind} (hk : k ≠ k') {n m : Nat} {ps qs : List Cover}
    {e e' : LedgerEntry} (h : e ∈ entries k n ps) (h' : e' ∈ entries k' m qs) : e.ref ≠ e'.ref := by
  intro hr
  apply hk
  rw [← (of_mem_entries h).1, hr, (of_mem_entries h').1]

theorem clean_mint {qs : List Cover} (h : Clean (uncover qs)) (k : KeyKind) (n : Nat) :
    Clean (mint k n qs) := by
  -- As in a substitution, the atoms before the place reached are kept along.
  suffices hu : ∀ u, Clean (u ++ uncover qs) → Clean (u ++ mint k n qs) from hu [] h
  clear h
  intro u h
  induction qs generalizing n u with
  | nil => exact h
  | cons q qs ih =>
    cases q with
    | kept x =>
      have hs := ih n (u ++ [x]) (by simpa [uncover_cons, Cover.word] using h)
      simpa [mint] using hs
    | hidden w =>
      rw [uncover_cons] at h
      have hu : Clean u := h.of_stretch List.infix_append_left
      have hv : Clean (uncover qs) :=
        h.of_stretch ⟨u ++ w, [], by simp [Cover.word]⟩
      exact (clean_append_cons_iff (isWall_ref _)).mpr ⟨hu, ih (n + 1) [] hv⟩

theorem Stands.mint {E : List LedgerEntry} {k : KeyKind} {n : Nat} {qs : List Cover} {t : Text}
    (hE : ∀ e ∈ entries k n qs, e ∈ E) (h : Stands E (uncover qs) t) :
    Stands E (mint k n qs) t := by
  induction qs generalizing n t with
  | nil => exact h
  | cons q qs ih =>
    rw [uncover_cons] at h
    cases q with
    | kept x =>
      cases h with
      | char c h => exact char c (ih hE h)
      | ref he hs h => exact ref he hs (ih hE h)
    | hidden u =>
      obtain ⟨s, s', rfl, hs, hs'⟩ := h.exists_of_append
      exact ref (e := ⟨⟨k, n⟩, u⟩) (hE _ List.mem_cons_self) hs
        (ih (fun e he => hE e (List.mem_cons_of_mem _ he)) hs')

end TemplateGuard
