import TemplateGuard.Proofs.Cutting

namespace TemplateGuard.Pattern

variable {α : Type} {p : Pattern α} {t : Text} {n : Nat} {ms : List (Nat × Text × α)}

/-- The matches, each with the offset at which it starts, are what there is to find in the text from
the offset `n` on. -/
structure Leftmost (p : Pattern α) (t : Text) (n : Nat) (ms : List (Nat × Text × α)) : Prop where
  ascending : ms.Pairwise fun a b => a.1 + a.2.1.length ≤ b.1
  taken : ∀ i s v, (i, s, v) ∈ ms → n ≤ i ∧ s <+: t.drop i ∧ p (t.drop i) = some ⟨s.length, v⟩
  complete : ∀ i, n ≤ i → (∀ j s v, (j, s, v) ∈ ms → i < j ∨ j + s.length ≤ i) →
    p (t.drop i) = none

theorem Proper.eq_none {p : Pattern α} (hp : p.Proper) : p [] = none := by
  cases h : p [] with
  | none => rfl
  | some m =>
    obtain ⟨hpos, hle⟩ := hp [] m h
    exact absurd hpos (Nat.not_lt.mpr hle)

theorem leftmost_end_iff (hp : p.Proper) (ht : t.drop n = []) :
    p.Leftmost t n ms ↔ ms = [] := by
  have hend : ∀ i, n ≤ i → p (t.drop i) = none := by
    intro i hi
    obtain ⟨d, rfl⟩ := Nat.exists_eq_add_of_le hi
    rw [← List.drop_drop, ht, List.drop_nil, hp.eq_none]
  constructor
  · intro h
    refine List.eq_nil_iff_forall_not_mem.mpr fun ⟨i, s, v⟩ hm => ?_
    obtain ⟨hi, -, hv⟩ := h.taken i s v hm
    rw [hend i hi] at hv
    exact absurd hv (by simp)
  · rintro rfl
    exact ⟨.nil, by simp, fun i hi _ => hend i hi⟩

/-- Where nothing is taken, the search goes on at the next place. -/
theorem leftmost_iff_of_none (hn : p (t.drop n) = none) :
    p.Leftmost t n ms ↔ p.Leftmost t (n + 1) ms := by
  constructor
  · intro h
    refine ⟨h.ascending, fun i s v hm => ?_, fun i hi => h.complete i (by omega)⟩
    obtain ⟨hi, hs, hv⟩ := h.taken i s v hm
    have hne : i ≠ n := by
      rintro rfl
      rw [hn] at hv
      exact absurd hv (by simp)
    exact ⟨by omega, hs, hv⟩
  · intro h
    refine ⟨h.ascending, fun i s v hm => ?_, fun i hi ho => ?_⟩
    · obtain ⟨hi, hs, hv⟩ := h.taken i s v hm
      exact ⟨by omega, hs, hv⟩
    · rcases Nat.eq_or_lt_of_le hi with rfl | hi
      · exact hn
      · exact h.complete i hi ho

/-- A match that can be taken at the first place is the first match. -/
theorem Leftmost.exists_cons (hp : p.Proper) (h : p.Leftmost t n ms) {s : Text} {v : α}
    (hs : s <+: t.drop n) (hv : p (t.drop n) = some ⟨s.length, v⟩) :
    ∃ ms', ms = (n, s, v) :: ms' := by
  obtain ⟨s', v', hm⟩ : ∃ s' v', (n, s', v') ∈ ms := by
    by_contra hno
    have hout : p (t.drop n) = none := by
      refine h.complete n (Nat.le_refl n) fun j s' v' hm => Or.inl ?_
      obtain ⟨hj, -, -⟩ := h.taken j s' v' hm
      have hne : n ≠ j := by
        rintro rfl
        exact hno ⟨s', v', hm⟩
      omega
    rw [hv] at hout
    exact absurd hout (by simp)
  obtain ⟨-, hs', hv'⟩ := h.taken n s' v' hm
  obtain ⟨hl, rfl⟩ := Taken.mk.inj (Option.some.inj (hv.symm.trans hv'))
  obtain rfl : s = s' :=
    (List.prefix_of_prefix_length_le hs hs' (Nat.le_of_eq hl)).eq_of_length hl
  cases ms with
  | nil => simp at hm
  | cons m ms =>
    rcases List.mem_cons.mp hm with rfl | hmem
    · exact ⟨ms, rfl⟩
    · -- A match before it would begin at the same place at the earliest, and take something.
      obtain ⟨i, a, b⟩ := m
      have hle := (List.pairwise_cons.mp h.ascending).1 _ hmem
      obtain ⟨hi, -, ha⟩ := h.taken i a b List.mem_cons_self
      have hpos := (hp _ _ ha).1
      simp only at hle hpos
      omega

theorem leftmost_iff_of_some (hp : p.Proper) {s : Text} {v : α} (hs : s <+: t.drop n)
    (hv : p (t.drop n) = some ⟨s.length, v⟩) :
    p.Leftmost t n ms ↔ ∃ ms', ms = (n, s, v) :: ms' ∧ p.Leftmost t (n + s.length) ms' := by
  constructor
  · intro h
    obtain ⟨ms', rfl⟩ := h.exists_cons hp hs hv
    obtain ⟨hfirst, hrest⟩ := List.pairwise_cons.mp h.ascending
    refine ⟨ms', rfl, hrest, fun i a b hm => ?_, fun i hi ho => ?_⟩
    · exact ⟨hfirst _ hm, (h.taken i a b (List.mem_cons_of_mem _ hm)).2⟩
    · refine h.complete i (by omega) fun j a b hm => ?_
      rcases List.mem_cons.mp hm with he | hm
      · obtain ⟨rfl, rfl, rfl⟩ : j = n ∧ a = s ∧ b = v := by simpa using he
        exact Or.inr hi
      · exact ho j a b hm
  · rintro ⟨ms', rfl, h⟩
    refine ⟨List.pairwise_cons.mpr ⟨?_, h.ascending⟩, fun i a b hm => ?_, fun i hi ho => ?_⟩
    · rintro ⟨i, a, b⟩ hm
      exact (h.taken i a b hm).1
    · rcases List.mem_cons.mp hm with he | hm
      · obtain ⟨rfl, rfl, rfl⟩ : i = n ∧ a = s ∧ b = v := by simpa using he
        exact ⟨Nat.le_refl _, hs, hv⟩
      · obtain ⟨hi, ha⟩ := h.taken i a b hm
        exact ⟨by omega, ha⟩
    · have hout := ho n s v List.mem_cons_self
      exact h.complete i (by omega) fun j a b hm => ho j a b (List.mem_cons_of_mem _ hm)

theorem leftmost_iff (hp : p.Proper) (t : Text) (n : Nat) (ms : List (Nat × Text × α)) :
    p.Leftmost t n ms ↔ ms = Piece.located n (p.cut (t.drop n)) := by
  generalize hu : t.drop n = u
  induction u using cut_induction hp generalizing n ms with
  | nil => exact leftmost_end_iff hp hu
  | plain c u hn ih =>
    have hnext : t.drop (n + 1) = u := by rw [← List.drop_drop, hu]; rfl
    rw [leftmost_iff_of_none (by rw [hu, hn]), ih (n + 1) ms hnext, cut_cons_of_none p hn,
      Piece.located]
  | found s u v hs hv ih =>
    have hnext : t.drop (n + s.length) = u := by rw [← List.drop_drop, hu, List.drop_left]
    rw [leftmost_iff_of_some hp (hu ▸ List.prefix_append s u) (by rw [hu, hv]), cut_found p hs hv,
      Piece.located]
    constructor
    · rintro ⟨ms', rfl, h⟩
      rw [(ih _ ms' hnext).mp h]
    · rintro rfl
      exact ⟨_, rfl, (ih _ _ hnext).mpr rfl⟩

/-- A search finds the leftmost matches and nothing else. -/
theorem locate_eq_iff (hp : p.Proper) (t : Text) (ms : List (Nat × Text × α)) :
    p.locate t = ms ↔ p.Leftmost t 0 ms := by
  rw [leftmost_iff hp, List.drop_zero, locate, eq_comm]

/-- The pattern takes the match at the place where it is said to stand. -/
def TakenAt (p : Pattern α) (t : Text) (m : Nat × Text × α) : Prop :=
  m.2.1 <+: t.drop m.1 ∧ p (t.drop m.1) = some ⟨m.2.1.length, m.2.2⟩

/-- Matches that are read as spans: where the spans that are `Good` are just the readings of what
the pattern takes, the spans read off a search are the good ones that follow each other and leave no
match outside. -/
theorem map_locate_eq_iff (hp : p.Proper) {β : Type} {Good : β → Prop} {start stop : β → Nat}
    {read : Nat × Text × α → β} {unread : β → Nat × Text × α}
    (hread : ∀ m, p.TakenAt t m → Good (read m) ∧ unread (read m) = m)
    (hunread : ∀ b, Good b → p.TakenAt t (unread b) ∧ read (unread b) = b ∧
      (unread b).1 = start b ∧ (unread b).1 + (unread b).2.1.length = stop b)
    (bs : List β) :
    (p.locate t).map read = bs ↔
      (bs.Pairwise fun a b => stop a ≤ start b) ∧ (∀ b ∈ bs, Good b) ∧
      ∀ i, (∀ b ∈ bs, i < start b ∨ stop b ≤ i) → p (t.drop i) = none := by
  constructor
  · rintro rfl
    have hl := (locate_eq_iff hp t (p.locate t)).mp rfl
    have hgood : ∀ m ∈ p.locate t, Good (read m) ∧ unread (read m) = m := fun m hm =>
      hread m (hl.taken m.1 m.2.1 m.2.2 hm).2
    have hends : ∀ m ∈ p.locate t, m.1 = start (read m) ∧ m.1 + m.2.1.length = stop (read m) := by
      intro m hm
      obtain ⟨hg, hu⟩ := hgood m hm
      have he := (hunread _ hg).2.2
      rwa [hu] at he
    refine ⟨List.pairwise_map.mpr (hl.ascending.imp_of_mem ?apart), ?good, ?outside⟩
    case apart =>
      intro a b ha hb hab
      rwa [← (hends a ha).2, ← (hends b hb).1]
    case good => exact List.forall_mem_map.mpr fun m hm => (hgood m hm).1
    case outside =>
      intro i hi
      refine hl.complete i (Nat.zero_le i) fun j x v hm => ?_
      have ho := hi _ (List.mem_map_of_mem hm)
      rwa [← (hends _ hm).1, ← (hends _ hm).2] at ho
  · rintro ⟨hasc, hgood, hcomplete⟩
    have hl : p.locate t = bs.map unread := by
      refine (locate_eq_iff hp t _).mpr ⟨List.pairwise_map.mpr (hasc.imp_of_mem ?apart), ?taken,
        ?outside⟩
      case apart =>
        intro a b ha hb hab
        obtain ⟨-, -, -, hstop⟩ := hunread a (hgood a ha)
        obtain ⟨-, -, hstart, -⟩ := hunread b (hgood b hb)
        rwa [hstop, hstart]
      case taken =>
        intro i x v hm
        obtain ⟨b, hb, he⟩ := List.mem_map.mp hm
        have ht := (hunread b (hgood b hb)).1
        rw [he] at ht
        exact ⟨Nat.zero_le i, ht⟩
      case outside =>
        intro i _ hi
        refine hcomplete i fun b hb => ?_
        obtain ⟨-, -, hstart, hstop⟩ := hunread b (hgood b hb)
        rw [← hstart, ← hstop]
        exact hi _ _ _ (List.mem_map_of_mem hb)
    rw [hl, List.map_map]
    have hid : ∀ b ∈ bs, (read ∘ unread) b = id b := fun b hb => (hunread b (hgood b hb)).2.1
    rw [List.map_congr_left hid, List.map_id]

end TemplateGuard.Pattern
