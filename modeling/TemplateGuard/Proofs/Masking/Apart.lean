import TemplateGuard.Proofs.Masking.Answers

namespace TemplateGuard

/-- The key stands in the text at a place where every occurrence of a key ends before it, begins
behind it, or is the one there. -/
def StandsApart (ps : List Placeholder) (key t : Text) : Prop :=
  ∃ x y, t = x ++ key ++ y ∧ ∀ p ∈ ps, ∀ a b, t = a ++ p.key ++ b →
    a.length + p.key.length ≤ x.length ∨ x.length + key.length ≤ a.length ∨
      (a.length = x.length ∧ p.key = key)

/-- No key runs across the place between the two texts. -/
def Parted (x y : Text) : Prop :=
  ∀ (r : Ref) a b, a ++ r.key ++ b = x ++ y →
    a.length + r.key.length ≤ x.length ∨ x.length ≤ a.length

theorem parted_nil_left (y : Text) : Parted [] y := fun _ _ _ _ => Or.inr (Nat.zero_le _)

theorem parted_nil_right (x : Text) : Parted x [] := by
  intro r a b h
  have hl := congrArg List.length h
  simp only [List.length_append, List.append_nil] at hl
  exact Or.inl (by omega)

theorem parted_concat {c : Char} (hc : Fence c) (x y : Text) : Parted (x ++ [c]) y := by
  intro r a b h
  rw [List.append_assoc x, List.singleton_append] at h
  rw [List.length_append, List.length_singleton]
  rcases beside_of_not_mem (hc r) h with h | h
  · exact Or.inl (by omega)
  · exact Or.inr h

theorem parted_cons {c : Char} (hc : Fence c) (x y : Text) : Parted x (c :: y) := by
  intro r a b h
  rcases beside_of_not_mem (hc r) h with h | h
  · exact Or.inl h
  · exact Or.inr (by omega)

/-- A text in which matches were replaced by a fenced one ends as before, behind a place that no key
runs across. -/
theorem exists_end_of_rebuild {α : Type} {new : Text} (hf : Fenced new) (ps : List (Piece α)) :
    ∃ u w v, ps.flatMap Piece.source = u ++ v ∧ Piece.rebuild (fun _ _ => new) ps = w ++ v ∧
      ∀ z, Parted w z := by
  induction ps using List.reverseRecOn with
  | nil => exact ⟨[], [], [], rfl, rfl, parted_nil_left⟩
  | append_singleton ps p ih =>
    rw [List.flatMap_append, Piece.rebuild_append]
    cases p with
    | plain c =>
      obtain ⟨u, w, v, hs, hr, hp⟩ := ih
      refine ⟨u, w, v ++ [c], ?_, ?_, hp⟩
      · rw [hs, List.append_assoc]
        rfl
      · rw [hr, List.append_assoc]
        rfl
    | found s v =>
      obtain ⟨c, m, d, rfl, -, hd⟩ := hf
      refine ⟨_, Piece.rebuild (fun _ _ => c :: (m ++ [d])) ps ++ (c :: m) ++ [d], [],
        (List.append_nil _).symm, ?_, fun z => parted_concat hd _ z⟩
      simp [Piece.rebuild]

theorem exists_start_of_rebuild {α : Type} {new : Text} (hf : Fenced new) (ps : List (Piece α)) :
    ∃ u w v, ps.flatMap Piece.source = v ++ u ∧ Piece.rebuild (fun _ _ => new) ps = v ++ w ∧
      ∀ z, Parted z w := by
  induction ps with
  | nil => exact ⟨[], [], [], rfl, rfl, parted_nil_right⟩
  | cons p ps ih =>
    cases p with
    | plain c =>
      obtain ⟨u, w, v, hs, hr, hp⟩ := ih
      exact ⟨u, w, c :: v, by rw [List.flatMap_cons, hs]; rfl, by rw [Piece.rebuild, hr]; rfl, hp⟩
    | found s v =>
      obtain ⟨c, m, d, rfl, hc, -⟩ := hf
      exact ⟨_, _, [], rfl, rfl, fun z => parted_cons hc z _⟩

namespace StandsApart

variable {ps : List Placeholder} {key t : Text}

theorem stands (h : StandsApart ps key t) : key <:+: t := by
  obtain ⟨x, y, rfl, -⟩ := h
  exact ⟨x, y, rfl⟩

/-- The search for another key finds nothing that touches a key that stands apart. -/
theorem exists_cut (h : StandsApart ps key t) {p : Placeholder} (hp : p ∈ ps) (hk : p.key ≠ [])
    (hne : p.key ≠ key) :
    ∃ as bs, (Text.literal p.key).cut t = as ++ key.map .plain ++ bs ∧
      ∀ q ∈ ps, ∀ a b, t = a ++ q.key ++ b →
        a.length + q.key.length ≤ (as.flatMap Piece.source).length ∨
        (as.flatMap Piece.source).length + key.length ≤ a.length ∨
        (a.length = (as.flatMap Piece.source).length ∧ q.key = key) := by
  obtain ⟨x, y, rfl, hx⟩ := h
  rw [List.append_assoc] at hx ⊢
  rcases Pattern.cut_append_cases (literal_proper hk) x (key ++ y) with
    ⟨as, hc, rfl⟩ | ⟨as, s, v, bs, hc, hl, hr⟩
  · have hy : (Text.literal p.key).cut (key ++ y) =
        key.map .plain ++ (Text.literal p.key).cut y := by
      refine Pattern.cut_append_of_none _ _ _ fun u z hu hz => literal_eq_none_iff.mpr ?_
      rintro ⟨b, hb⟩
      have hpos := List.length_pos_of_ne_nil hz
      have hkl := List.length_pos_of_ne_nil hk
      have hul := congrArg List.length hu
      rw [List.length_append] at hul
      rcases hx p hp (as.flatMap Piece.source ++ u) b (by rw [hu]; simp [← hb]) with h | h | h
      · rw [List.length_append] at h
        omega
      · rw [List.length_append] at h
        omega
      · exact hne h.2
    exact ⟨as, _, by rw [hc, hy, List.append_assoc], hx⟩
  · exfalso
    obtain ⟨-, b, hb⟩ := Pattern.exists_of_mem_cut (literal_proper hk)
      (show .found s v ∈ (Text.literal p.key).cut (x ++ (key ++ y)) by rw [hc]; simp)
    obtain rfl := eq_of_literal hb
    have hs := Pattern.sources_cut (Text.literal p.key) (x ++ (key ++ y))
    rw [hc] at hs
    rcases hx p hp (as.flatMap Piece.source) (bs.flatMap Piece.source)
      (by rw [← hs]; simp [Piece.source]) with h | h | h
    · omega
    · omega
    · exact hne h.2

/-- Expanding another key leaves a key standing apart. -/
theorem expand (hps : ∀ q ∈ ps, ∃ r : Ref, q.key = r.key) (h : StandsApart ps key t)
    {p : Placeholder} (hp : p ∈ ps) (hne : p.key ≠ key) (hf : Fenced p.covered) :
    StandsApart ps key (p.expand t) := by
  obtain ⟨r, hr⟩ := hps p hp
  have hk : p.key ≠ [] := hr ▸ r.key_ne_nil
  obtain ⟨as, bs, hc, hx⟩ := h.exists_cut hp hk hne
  obtain ⟨u, w, v, hs, hw, hwp⟩ := exists_end_of_rebuild hf as
  obtain ⟨u', w', v', hs', hw', hwp'⟩ := exists_start_of_rebuild hf bs
  have ht : t = u ++ (v ++ key ++ v') ++ u' := by
    have hsrc := Pattern.sources_cut (Text.literal p.key) t
    rw [hc, List.flatMap_append, List.flatMap_append, hs, hs', Piece.sources_plain] at hsrc
    rw [← hsrc]
    simp only [List.append_assoc]
  have he : p.expand t = w ++ (v ++ key ++ v') ++ w' := by
    rw [expand_eq hk, Pattern.replace, hc, Piece.rebuild_append, Piece.rebuild_append, Piece.rebuild_plain, hw, hw']
    simp only [List.append_assoc]
  refine ⟨w ++ v, v' ++ w', by rw [he]; simp only [List.append_assoc], ?_⟩
  intro q hq a b hab
  obtain ⟨r', hr'⟩ := hps q hq
  rw [he, hr'] at hab
  rw [hr']
  have hl := congrArg List.length hs
  have hleft := hwp (v ++ key ++ v' ++ w') r' a b (by rw [← hab]; simp only [List.append_assoc])
  have hright := hwp' (w ++ (v ++ key ++ v')) r' a b hab.symm
  simp only [List.length_append] at hl hleft hright ⊢
  rcases hleft with hleft | hleft
  · exact Or.inl (by omega)
  rcases hright with hright | hright
  · -- The occurrence lies in what expanding has left as it was.
    obtain ⟨a, rfl⟩ : w <+: a :=
      List.prefix_of_prefix_length_le ⟨v ++ key ++ v' ++ w', by rw [← List.append_assoc, hab]⟩
        ⟨r'.key ++ b, by rw [List.append_assoc]⟩ hleft
    obtain ⟨b', hb'⟩ : w ++ a ++ r'.key <+: w ++ (v ++ key ++ v') :=
      List.prefix_of_prefix_length_le ⟨b, rfl⟩ ⟨w', hab⟩
        (by simp only [List.length_append] at hright ⊢; omega)
    simp only [List.append_assoc, List.append_cancel_left_eq] at hb'
    have hold := hx q hq (u ++ a) (b' ++ u') (by rw [ht, hr']; simp [← hb'])
    have hla : (w ++ a).length = w.length + a.length := List.length_append
    simp only [hr', List.length_append] at hold
    rcases hold with hold | hold | ⟨hold, hkey⟩
    · exact Or.inl (by omega)
    · exact Or.inr (Or.inl (by omega))
    · exact Or.inr (Or.inr ⟨by omega, hkey⟩)
  · exact Or.inr (Or.inl (by omega))

end StandsApart

/-- If every key stands apart from the keys of all placeholders, none is passed over. -/
theorem skips_eq_nil {ps qs : List Placeholder} (hqs : ∀ q ∈ qs, ∃ r : Ref, q.key = r.key)
    (hf : ∀ q ∈ qs, Fenced q.covered) (hps : ∀ p ∈ ps, p ∈ qs)
    (hd : ps.Pairwise fun p q => p.key ≠ q.key) {t : Text}
    (h : ∀ p ∈ ps, StandsApart qs p.key t) : skips t ps = [] := by
  induction ps generalizing t with
  | nil => rfl
  | cons p ps ih =>
    obtain ⟨hp, hd⟩ := List.pairwise_cons.mp hd
    have hm := hps p List.mem_cons_self
    have hin := (Text.hasInfix_iff _ _).mpr (h p List.mem_cons_self).stands
    rw [skips, if_pos hin]
    refine ih (fun q hq => hps q (List.mem_cons_of_mem p hq)) hd ?_
    intro q hq
    exact (h q (List.mem_cons_of_mem p hq)).expand hqs hm (hp q hq) (hf p hm)

end TemplateGuard
