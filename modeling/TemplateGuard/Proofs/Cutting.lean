import Mathlib.Data.List.Infix
import TemplateGuard.Text.Cut

namespace TemplateGuard.Piece

variable {α : Type}

theorem sources_plain (t : Text) :
    (t.map (.plain : Char → Piece α)).flatMap source = t := by
  induction t with
  | nil => rfl
  | cons c t ih => exact congrArg (c :: ·) ih

theorem rebuild_append (f : Text → α → Text) (ps qs : List (Piece α)) :
    rebuild f (ps ++ qs) = rebuild f ps ++ rebuild f qs := by
  induction ps with
  | nil => rfl
  | cons p ps ih =>
    cases p with
    | plain c => exact congrArg (c :: ·) ih
    | found s v => rw [List.cons_append, rebuild, ih, rebuild, List.append_assoc]

theorem rebuild_plain (f : Text → α → Text) (t : Text) :
    rebuild f (t.map .plain) = t := by
  induction t with
  | nil => rfl
  | cons c t ih => exact congrArg (c :: ·) ih

theorem mem_located (n : Nat) (ps : List (Piece α)) (s : Text) (v : α)
    (qs : List (Piece α)) :
    (n + (ps.flatMap source).length, s, v) ∈ located n (ps ++ .found s v :: qs) := by
  induction ps generalizing n with
  | nil => simp [located]
  | cons p ps ih =>
    cases p with
    | plain c =>
      have hm := ih (n + 1)
      simpa [located, source, Nat.add_assoc, Nat.add_comm 1] using hm
    | found a w =>
      have hm := ih (n + a.length)
      refine List.mem_cons_of_mem _ ?_
      simpa [source, Nat.add_assoc] using hm

theorem found_of_mem_located {n i : Nat} {ps : List (Piece α)} {s : Text} {v : α}
    (h : (i, s, v) ∈ located n ps) : .found s v ∈ ps := by
  induction ps generalizing n with
  | nil => simp [located] at h
  | cons p ps ih =>
    cases p with
    | plain c => exact List.mem_cons_of_mem _ (ih h)
    | found a w =>
      rcases List.mem_cons.mp h with he | hm
      · obtain ⟨-, rfl, rfl⟩ := he
        exact List.mem_cons_self
      · exact List.mem_cons_of_mem _ (ih hm)

/-- A located match cuts the pieces in two. -/
theorem exists_of_getElem?_located {n i : Nat} {ps : List (Piece α)} {m : Nat × Text × α}
    (h : (located n ps)[i]? = some m) :
    ∃ as bs, ps = as ++ .found m.2.1 m.2.2 :: bs ∧ m.1 = n + (as.flatMap source).length ∧
      (located n as).length = i := by
  induction ps generalizing n i with
  | nil => simp [located] at h
  | cons p ps ih =>
    cases p with
    | plain c =>
      obtain ⟨as, bs, rfl, hm, hi⟩ := ih h
      refine ⟨.plain c :: as, bs, rfl, ?_, hi⟩
      simp only [hm, List.flatMap_cons, source, List.length_append, List.length_singleton]
      omega
    | found x v =>
      cases i with
      | zero =>
        obtain rfl : (n, x, v) = m := Option.some.inj h
        exact ⟨[], ps, rfl, rfl, rfl⟩
      | succ i =>
        obtain ⟨as, bs, rfl, hm, hi⟩ := ih h
        refine ⟨.found x v :: as, bs, rfl, ?_, congrArg (· + 1) hi⟩
        simp only [hm, List.flatMap_cons, source, List.length_append]
        omega

end TemplateGuard.Piece

namespace TemplateGuard.Pattern

variable {α : Type} (p : Pattern α)

/-- A match takes at least one character, and only characters that are there. -/
def Proper : Prop := ∀ t m, p t = some m → 0 < m.length ∧ m.length ≤ t.length

/-- A match at the head of a text is some characters of it. -/
theorem Proper.exists_append {p : Pattern α} (hp : p.Proper) {t : Text} {m : Taken α}
    (h : p t = some m) :
    ∃ a b, t = a ++ b ∧ a ≠ [] ∧ p (a ++ b) = some ⟨a.length, m.value⟩ := by
  obtain ⟨hpos, hle⟩ := hp t m h
  have hl : (t.take m.length).length = m.length := by
    rw [List.length_take, Nat.min_eq_left hle]
  refine ⟨t.take m.length, t.drop m.length, (List.take_append_drop _ t).symm, ?_, ?_⟩
  · exact List.ne_nil_of_length_pos (by rw [hl]; exact hpos)
  · rw [List.take_append_drop, hl, h]

@[simp] theorem cut_nil : p.cut [] = [] := rfl

theorem cut_cons_of_none {c : Char} {t : Text} (h : p (c :: t) = none) :
    p.cut (c :: t) = .plain c :: p.cut t := by
  simp [cut, cutAfter, h]

theorem cut_found {a b : Text} {v : α} (ha : a ≠ []) (h : p (a ++ b) = some ⟨a.length, v⟩) :
    p.cut (a ++ b) = .found a v :: p.cut b := by
  obtain ⟨c, a, rfl⟩ := List.exists_cons_of_ne_nil ha
  rw [List.cons_append] at h ⊢
  rw [cut, cutAfter, h]
  simp only [List.length_cons, Nat.add_sub_cancel, List.take_left]
  rw [cutAfter_eq, List.drop_left, cut]

/-- The characters of a stretch in which no match begins are left alone. -/
theorem cut_append_of_none (a b : Text)
    (h : ∀ x y, a = x ++ y → y ≠ [] → p (y ++ b) = none) :
    p.cut (a ++ b) = a.map .plain ++ p.cut b := by
  induction a with
  | nil => rfl
  | cons c a ih =>
    have hc : p (c :: (a ++ b)) = none := h [] (c :: a) rfl (by simp)
    have ha := ih (fun x y e hy => h (c :: x) y (by rw [e, List.cons_append]) hy)
    rw [List.cons_append, cut_cons_of_none p hc, ha]
    rfl

/-- Induction along a search: a text is empty, or starts with a character at which nothing is
found, or starts with a match. -/
theorem cut_induction {p : Pattern α} (hp : p.Proper) {motive : Text → Prop}
    (nil : motive [])
    (plain : ∀ c t, p (c :: t) = none → motive t → motive (c :: t))
    (found : ∀ a b v, a ≠ [] → p (a ++ b) = some ⟨a.length, v⟩ → motive b → motive (a ++ b))
    (t : Text) : motive t := by
  induction ht : t.length using Nat.strong_induction_on generalizing t with
  | h n ih =>
    cases t with
    | nil => exact nil
    | cons c t =>
      cases hm : p (c :: t) with
      | none => exact plain c t hm (ih t.length (by simp [← ht]) t rfl)
      | some m =>
        obtain ⟨a, b, he, ha, hv⟩ := hp.exists_append hm
        have hl : b.length < n := by
          have hpos := List.length_pos_of_ne_nil ha
          rw [← ht, he, List.length_append]
          omega
        rw [he]
        exact found a b m.value ha hv (ih b.length hl b rfl)

/-- A text is cut at any place of it that no match runs across. -/
theorem cut_append_cases {p : Pattern α} (hp : p.Proper) (a b : Text) :
    (∃ ps, p.cut (a ++ b) = ps ++ p.cut b ∧ ps.flatMap Piece.source = a) ∨
    ∃ ps s v qs, p.cut (a ++ b) = ps ++ .found s v :: qs ∧
      (ps.flatMap Piece.source).length < a.length ∧
      a.length < (ps.flatMap Piece.source).length + s.length := by
  induction ht : a ++ b using cut_induction hp generalizing a with
  | nil =>
    obtain ⟨rfl, rfl⟩ := List.append_eq_nil_iff.mp ht
    exact Or.inl ⟨[], rfl, rfl⟩
  | plain c t hn ih =>
    cases a with
    | nil => exact Or.inl ⟨[], by rw [← ht]; rfl, rfl⟩
    | cons d a =>
      obtain ⟨rfl, hat⟩ := List.cons.inj ht
      rw [cut_cons_of_none p hn]
      rcases ih a hat with ⟨ps, he, hs⟩ | ⟨ps, s, v, qs, he, hl, hr⟩
      · exact Or.inl ⟨.plain d :: ps, by rw [he]; rfl, by rw [List.flatMap_cons, hs]; rfl⟩
      · refine Or.inr ⟨.plain d :: ps, s, v, qs, by rw [he]; rfl, ?_, ?_⟩
        · simpa [Piece.source] using hl
        · simp only [List.flatMap_cons, List.length_append, List.length_cons, List.length_nil,
            Piece.source]
          omega
  | found s t v hs hv ih =>
    rcases Nat.lt_or_ge a.length s.length with hl | hl
    · by_cases ha : a = []
      · subst ha
        exact Or.inl ⟨[], by rw [← ht]; rfl, rfl⟩
      · refine Or.inr ⟨[], s, v, p.cut t, cut_found p hs hv, ?_, by simpa using hl⟩
        simpa using List.length_pos_of_ne_nil ha
    · have hsa : s <+: a :=
        List.prefix_of_prefix_length_le (List.prefix_append s t) (ht ▸ List.prefix_append a b) hl
      obtain ⟨a, rfl⟩ := hsa
      rw [List.append_assoc, List.append_cancel_left_eq] at ht
      rw [cut_found p hs hv]
      rcases ih a ht with ⟨ps, he, hsrc⟩ | ⟨ps, s', v', qs, he, hl, hr⟩
      · exact Or.inl ⟨.found s v :: ps, by rw [he]; rfl, by rw [List.flatMap_cons, hsrc]; rfl⟩
      · refine Or.inr ⟨.found s v :: ps, s', v', qs, by rw [he]; rfl, ?_, ?_⟩
        · simpa [Piece.source] using hl
        · simp only [List.flatMap_cons, List.length_append, Piece.source]
          omega

/-- What is found in a text is what the pattern takes somewhere. -/
theorem exists_of_mem_cut {p : Pattern α} (hp : p.Proper) {t a : Text} {v : α}
    (h : .found a v ∈ p.cut t) : a ≠ [] ∧ ∃ b, p (a ++ b) = some ⟨a.length, v⟩ := by
  induction t using cut_induction hp with
  | nil => simp at h
  | plain c t hn ih =>
    rw [cut_cons_of_none p hn] at h
    exact ih (by simpa using h)
  | found a' b v' ha hv ih =>
    rw [cut_found p ha hv] at h
    rcases List.mem_cons.mp h with he | hm
    · obtain ⟨rfl, rfl⟩ := Piece.found.inj he
      exact ⟨ha, b, hv⟩
    · exact ih hm

@[simp] theorem replace_nil (f : Text → α → Text) : p.replace f [] = [] := rfl

theorem replace_cons_of_none (f : Text → α → Text) {c : Char} {t : Text}
    (h : p (c :: t) = none) : p.replace f (c :: t) = c :: p.replace f t := by
  rw [replace, cut_cons_of_none p h, Piece.rebuild, replace]

theorem replace_found (f : Text → α → Text) {a b : Text} {v : α} (ha : a ≠ [])
    (h : p (a ++ b) = some ⟨a.length, v⟩) :
    p.replace f (a ++ b) = f a v ++ p.replace f b := by
  rw [replace, cut_found p ha h, Piece.rebuild, replace]

theorem replace_append_of_none (f : Text → α → Text) (a b : Text)
    (h : ∀ x y, a = x ++ y → y ≠ [] → p (y ++ b) = none) :
    p.replace f (a ++ b) = a ++ p.replace f b := by
  rw [replace, cut_append_of_none p a b h, Piece.rebuild_append, Piece.rebuild_plain, replace]

/-- A pattern matches in a text when some non-empty end of it starts with a match. -/
theorem matchesIn_iff (t : Text) :
    p.matchesIn t = true ↔ ∃ a b, t = a ++ b ∧ b ≠ [] ∧ (p b).isSome := by
  induction t with
  | nil => simp [matchesIn]
  | cons c t ih =>
    rw [matchesIn, Bool.or_eq_true, ih]
    constructor
    · rintro (h | ⟨a, b, rfl, hb, h⟩)
      · exact ⟨[], c :: t, rfl, by simp, h⟩
      · exact ⟨c :: a, b, rfl, hb, h⟩
    · rintro ⟨a, b, e, hb, h⟩
      cases a with
      | nil => exact Or.inl (by rw [e]; exact h)
      | cons d a =>
        obtain ⟨rfl, rfl⟩ := List.cons.inj e
        exact Or.inr ⟨a, b, rfl, hb, h⟩

theorem matchesIn_of_mem_cut {p : Pattern α} (hp : p.Proper) {t a : Text} {v : α}
    (h : .found a v ∈ p.cut t) : p.matchesIn t = true := by
  rw [matchesIn_iff]
  induction t using cut_induction hp with
  | nil => simp at h
  | plain c t hn ih =>
    rw [cut_cons_of_none p hn] at h
    obtain ⟨x, y, rfl, hy, hm⟩ := ih (by simpa using h)
    exact ⟨c :: x, y, rfl, hy, hm⟩
  | found a' b v' ha hv ih => exact ⟨[], a' ++ b, rfl, by simp [ha], by simp [hv]⟩

theorem locate_eq_nil_iff {p : Pattern α} (hp : p.Proper) (t : Text) :
    p.locate t = [] ↔ p.matchesIn t = false := by
  rw [locate]
  generalize 0 = n
  induction t using cut_induction hp generalizing n with
  | nil => simp [Piece.located, matchesIn]
  | plain c t hn ih =>
    rw [cut_cons_of_none p hn, Piece.located, ih]
    simp [matchesIn, hn]
  | found a b v ha hv _ =>
    obtain ⟨c, a, rfl⟩ := List.exists_cons_of_ne_nil ha
    rw [cut_found p ha hv]
    rw [List.cons_append] at hv
    simp [Piece.located, matchesIn, hv]

end TemplateGuard.Pattern
