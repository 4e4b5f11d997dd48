import TemplateGuard.Proofs.Masking.Nesting
import TemplateGuard.Proofs.Masking.RoundTrip

namespace TemplateGuard

/-- The placeholders that are passed over, because their keys are gone when their turn comes. -/
def skips (t : Text) : List Placeholder → List Placeholder
  | [] => []
  | p :: ps => if t.hasInfix p.key then skips (p.expand t) ps else p :: skips t ps

/-- The placeholders that restoring a text passes over. -/
def restoreSkips (t : Text) (ps : List Placeholder) : List Placeholder :=
  skips t (ps.mergeSort fun a b => decide (b.key.length ≤ a.key.length))

theorem literal_proper {key : Text} (hk : key ≠ []) : (Text.literal key).Proper := by
  intro t m h
  unfold Text.literal at h
  split at h
  · next hp =>
    obtain rfl := Option.some.inj h
    exact ⟨List.length_pos_of_ne_nil hk, (List.isPrefixOf_iff_prefix.mp hp).length_le⟩
  · simp at h

theorem eq_of_literal {key a b : Text} {v : Unit}
    (h : Text.literal key (a ++ b) = some ⟨a.length, v⟩) : a = key := by
  unfold Text.literal at h
  split at h
  · next hp =>
    have hl : key.length = a.length := congrArg Taken.length (Option.some.inj h)
    have hpre := List.isPrefixOf_iff_prefix.mp hp
    exact ((List.prefix_of_prefix_length_le hpre (List.prefix_append a b)
      (Nat.le_of_eq hl)).eq_of_length hl).symm
  · simp at h

/-- A stretch that does not hold a character lies on one side of each place where it stands. -/
theorem beside_of_not_mem {α : Type} {c : α} {a l b x y : List α} (hc : c ∉ l)
    (h : a ++ l ++ b = x ++ c :: y) :
    a.length + l.length ≤ x.length ∨ x.length + 1 ≤ a.length := by
  by_contra hn
  rw [not_or, Nat.not_le, Nat.not_le] at hn
  obtain ⟨hr, hl⟩ := hn
  rw [List.append_assoc] at h
  have ha : a <+: x := List.prefix_of_prefix_length_le ⟨l ++ b, h⟩ ⟨c :: y, rfl⟩ (by omega)
  obtain ⟨x, rfl⟩ := ha
  rw [List.append_assoc, List.append_cancel_left_eq] at h
  rw [List.length_append] at hr
  have hx : x <+: l := List.prefix_of_prefix_length_le ⟨c :: y, h.symm⟩ ⟨b, rfl⟩ (by omega)
  obtain ⟨l, rfl⟩ := hx
  rw [List.append_assoc, List.append_cancel_left_eq] at h
  rw [List.length_append] at hr
  obtain ⟨d, l, rfl⟩ := List.exists_cons_of_ne_nil
    (List.ne_nil_of_length_pos (show 0 < l.length by omega))
  obtain ⟨rfl, -⟩ := List.cons.inj h
  exact hc (by simp)

theorem replace_append_cons {key : Text} (hk : key ≠ []) {c : Char} (hc : c ∉ key) (new x y : Text) :
    (Text.literal key).replace (fun _ _ => new) (x ++ c :: y) =
      (Text.literal key).replace (fun _ _ => new) x ++
        c :: (Text.literal key).replace (fun _ _ => new) y := by
  have before : ∀ z, ¬ key <+: z → ¬ key <+: z ++ c :: y := by
    rintro z hz ⟨b, hb⟩
    rcases beside_of_not_mem (a := []) hc hb with hl | hl
    · rw [List.length_nil, Nat.zero_add] at hl
      exact hz (List.prefix_of_prefix_length_le ⟨b, hb⟩ ⟨c :: y, rfl⟩ hl)
    · simp at hl
  induction x using Pattern.cut_induction (literal_proper hk) with
  | nil =>
    have hn := literal_eq_none_iff.mpr (before [] fun h => hk (List.prefix_nil.mp h))
    rw [List.nil_append] at hn ⊢
    rw [Pattern.replace_cons_of_none _ _ hn]
    rfl
  | plain d t hn ih =>
    have hn' := literal_eq_none_iff.mpr (before (d :: t) (literal_eq_none_iff.mp hn))
    rw [List.cons_append] at hn' ⊢
    rw [Pattern.replace_cons_of_none _ _ hn', Pattern.replace_cons_of_none _ _ hn, ih]
    rfl
  | found a b v ha hv ih =>
    obtain rfl := eq_of_literal hv
    rw [List.append_assoc, Pattern.replace_found _ _ ha (literal_append _ _),
      Pattern.replace_found _ _ ha (literal_append _ _), ih, List.append_assoc]

/-- An expanded key leaves what it covers. -/
theorem exists_expand_eq {p : Placeholder} (hk : p.key ≠ []) {t : Text} (h : p.key <:+: t) :
    ∃ x y, p.expand t = x ++ p.covered ++ y := by
  rw [expand_eq hk]
  induction t using Pattern.cut_induction (literal_proper hk) with
  | nil => exact absurd (List.infix_nil.mp h) hk
  | plain c t hn ih =>
    rcases List.infix_cons_iff.mp h with hp | hi
    · exact absurd hp (literal_eq_none_iff.mp hn)
    · obtain ⟨x, y, he⟩ := ih hi
      exact ⟨c :: x, y, by rw [Pattern.replace_cons_of_none _ _ hn, he]; rfl⟩
  | found a b v ha hv _ =>
    exact ⟨[], _, by rw [Pattern.replace_found _ _ ha hv]; rfl⟩

/-- A character that no key holds, so that keys on its sides are expanded on their own. -/
def Fence (c : Char) : Prop := ∀ r : Ref, c ∉ r.key

theorem foldl_expand_append_cons {ps : List Placeholder} (hps : ∀ p ∈ ps, ∃ r : Ref, p.key = r.key)
    {c : Char} (hc : Fence c) (x y : Text) :
    ps.foldl Placeholder.expand (x ++ c :: y) =
      ps.foldl Placeholder.expand x ++ c :: ps.foldl Placeholder.expand y := by
  induction ps generalizing x y with
  | nil => rfl
  | cons p ps ih =>
    obtain ⟨r, hr⟩ := hps p List.mem_cons_self
    have hk : p.key ≠ [] := hr ▸ r.key_ne_nil
    have hn : c ∉ p.key := hr ▸ hc r
    simp only [List.foldl_cons, expand_eq hk, replace_append_cons hk hn]
    exact ih (fun q hq => hps q (List.mem_cons_of_mem p hq)) _ _

theorem foldl_expand_nil {ps : List Placeholder} (hps : ∀ p ∈ ps, ∃ r : Ref, p.key = r.key) :
    ps.foldl Placeholder.expand [] = [] := by
  induction ps with
  | nil => rfl
  | cons p ps ih =>
    obtain ⟨r, hr⟩ := hps p List.mem_cons_self
    rw [List.foldl_cons, expand_eq (hr ▸ r.key_ne_nil)]
    exact ih fun q hq => hps q (List.mem_cons_of_mem p hq)

/-- A text with fences at its ends. -/
def Fenced (s : Text) : Prop := ∃ c m d, s = c :: (m ++ [d]) ∧ Fence c ∧ Fence d

/-- A fenced text is expanded as if it stood alone. -/
theorem Fenced.infix_foldl {ps : List Placeholder} (hps : ∀ p ∈ ps, ∃ r : Ref, p.key = r.key)
    {s : Text} (hs : Fenced s) (x y : Text) :
    ps.foldl Placeholder.expand s <:+: ps.foldl Placeholder.expand (x ++ s ++ y) := by
  obtain ⟨c, m, d, rfl, hc, hd⟩ := hs
  have alone : ps.foldl Placeholder.expand (c :: (m ++ [d])) =
      c :: (ps.foldl Placeholder.expand m ++ [d]) := by
    have h := foldl_expand_append_cons hps hc [] (m ++ [d])
    rwa [foldl_expand_append_cons hps hd, foldl_expand_nil hps] at h
  have inside : ps.foldl Placeholder.expand (x ++ c :: (m ++ [d]) ++ y) =
      ps.foldl Placeholder.expand x ++
        c :: (ps.foldl Placeholder.expand m ++ d :: ps.foldl Placeholder.expand y) := by
    rw [List.append_assoc, List.cons_append, List.append_assoc, foldl_expand_append_cons hps hc]
    exact congrArg (_ ++ c :: ·) (foldl_expand_append_cons hps hd m y)
  rw [alone, inside]
  exact ⟨ps.foldl Placeholder.expand x, ps.foldl Placeholder.expand y, by simp⟩

theorem Passes.fenced {n : Nat} {t : Text} {ps qs : List Cover} (h : Passes n t ps qs)
    {e : LedgerEntry} (he : e ∈ recorded n ps qs) : Fenced (render e.word) := by
  rcases List.mem_append.mp he with he | he
  · obtain ⟨s, hs⟩ := h.outer _ (of_mem_entries he).2.2.2
    rw [hs, render_chars]
    exact ⟨'/', s, '/', rfl, Ref.not_mem_key (by decide), Ref.not_mem_key (by decide)⟩
  · obtain ⟨m, hm⟩ := h.inner _ (of_mem_entries he).2.2.2
    rw [hm, render_char, render_append]
    exact ⟨'{', render m, '}', rfl, Ref.not_mem_key (by decide), Ref.not_mem_key (by decide)⟩

/-- If no placeholder is passed over, the piece that each of them stands for comes back whole. -/
theorem Schedule.infix_foldl_expand {E : List LedgerEntry} (hE : Ledger E)
    (hf : ∀ e ∈ E, Fenced (render e.word)) {ps : List Placeholder} (hp : Schedule E ps) {t : Text}
    (ht : skips t ps = []) {e : LedgerEntry} (he : e ∈ E) (hm : e.placeholder ∈ ps) {s : Text}
    (hs : Stands E e.word s) : s <:+: ps.foldl Placeholder.expand t := by
  induction ps generalizing t with
  | nil => simp at hm
  | cons p ps ih =>
    obtain ⟨hps, e', he', rfl, hre⟩ := hp.uncons hE
    rw [skips] at ht
    split at ht
    · next hin =>
      rw [List.foldl_cons]
      rcases List.mem_cons.mp hm with hm | hm
      · -- Its turn: what it covers is put in, and is restored on its own from here on.
        have hr : e.ref = e'.ref := Ref.key_injective (congrArg Placeholder.key hm)
        obtain rfl := hE.unique e he e' he' hr
        obtain ⟨x, y, hxy⟩ := exists_expand_eq (p := e.placeholder) e.ref.key_ne_nil
          ((Text.hasInfix_iff _ _).mp hin)
        have hkeys : ∀ q ∈ ps, ∃ r : Ref, q.key = r.key := by
          intro q hq
          obtain ⟨d, -, rfl, -⟩ := hps.recorded q hq
          exact ⟨d.ref, rfl⟩
        have hi := (hf e he).infix_foldl hkeys x y
        rw [hps.foldl_expand hE (hE.clean e he) hre hs] at hi
        rw [hxy]
        exact hi
      · exact ih hps ht hm
    · simp at ht

end TemplateGuard
