import TemplateGuard.Proofs.Masking.Words

namespace TemplateGuard

/-- A reference and the word that was taken out for it. -/
structure LedgerEntry where
  ref : Ref
  word : Word
  deriving DecidableEq, Repr

def LedgerEntry.placeholder (e : LedgerEntry) : Placeholder := ⟨e.ref.key, render e.word⟩

/-- Entries from which texts can be restored: every reference has one word, the words are clean and
walled, and what they refer to has an entry of its own and a shorter key. -/
structure Ledger (E : List LedgerEntry) : Prop where
  unique : ∀ e ∈ E, ∀ e' ∈ E, e.ref = e'.ref → e = e'
  clean : ∀ e ∈ E, Clean e.word
  walled : ∀ e ∈ E, Walled e.word
  nested : ∀ e ∈ E, ∀ r, .ref r ∈ e.word →
    ∃ e' ∈ E, e'.ref = r ∧ r.key.length < e.ref.key.length

namespace Ledger

variable {E E' : List LedgerEntry}

theorem empty : Ledger [] := ⟨by simp, by simp, by simp, by simp⟩

/-- New entries may refer to those that are there already. -/
theorem extend (h : Ledger E) (hd : ∀ e ∈ E, ∀ e' ∈ E', e.ref ≠ e'.ref)
    (hu : ∀ e ∈ E', ∀ e' ∈ E', e.ref = e'.ref → e = e') (hc : ∀ e ∈ E', Clean e.word)
    (hw : ∀ e ∈ E', Walled e.word)
    (hn : ∀ e ∈ E', ∀ r, .ref r ∈ e.word →
      ∃ e' ∈ E ++ E', e'.ref = r ∧ r.key.length < e.ref.key.length) : Ledger (E ++ E') := by
  refine ⟨?unique, ?clean, ?walled, ?nested⟩
  case unique =>
    intro e he e' he' hr
    rcases List.mem_append.mp he with he | he <;> rcases List.mem_append.mp he' with he' | he'
    · exact h.unique e he e' he' hr
    · exact absurd hr (hd e he e' he')
    · exact absurd hr.symm (hd e' he' e he)
    · exact hu e he e' he' hr
  case clean => exact fun e he => (List.mem_append.mp he).elim (h.clean e) (hc e)
  case walled => exact fun e he => (List.mem_append.mp he).elim (h.walled e) (hw e)
  case nested =>
    intro e he r hr
    rcases List.mem_append.mp he with he | he
    · obtain ⟨e', he', hn⟩ := h.nested e he r hr
      exact ⟨e', List.mem_append_left _ he', hn⟩
    · exact hn e he r hr

theorem append (h : Ledger E) (h' : Ledger E') (hd : ∀ e ∈ E, ∀ e' ∈ E', e.ref ≠ e'.ref) :
    Ledger (E ++ E') := by
  refine h.extend hd h'.unique h'.clean h'.walled fun e he r hr => ?_
  obtain ⟨e', he', hn⟩ := h'.nested e he r hr
  exact ⟨e', List.mem_append_right _ he', hn⟩

end Ledger

/-- The text that a word stands for when all its references are followed. -/
inductive Stands (E : List LedgerEntry) : Word → Text → Prop where
  | nil : Stands E [] []
  | char (c : Char) {w : Word} {t : Text} : Stands E w t → Stands E (.char c :: w) (c :: t)
  | ref {e : LedgerEntry} {s : Text} {w : Word} {t : Text} : e ∈ E → Stands E e.word s →
    Stands E w t → Stands E (.ref e.ref :: w) (s ++ t)

namespace Stands

variable {E : List LedgerEntry}

theorem mono {E' : List LedgerEntry} (hE : ∀ e ∈ E, e ∈ E') {w : Word} {t : Text}
    (h : Stands E w t) : Stands E' w t := by
  induction h with
  | nil => exact nil
  | char c _ ih => exact char c ih
  | ref he _ _ ihs iht => exact ref (hE _ he) ihs iht

theorem chars (t : Text) : Stands E (chars t) t := by
  induction t with
  | nil => exact nil
  | cons c t ih => exact char c ih

theorem append {u v : Word} {s t : Text} (hu : Stands E u s) (hv : Stands E v t) :
    Stands E (u ++ v) (s ++ t) := by
  induction hu with
  | nil => exact hv
  | char c _ ih => exact char c ih
  | ref he hs _ _ iht =>
    rw [List.append_assoc]
    exact ref he hs iht

theorem exists_of_append {u v : Word} {t : Text} (h : Stands E (u ++ v) t) :
    ∃ s s', t = s ++ s' ∧ Stands E u s ∧ Stands E v s' := by
  induction u generalizing t with
  | nil => exact ⟨[], t, rfl, nil, h⟩
  | cons x u ih =>
    cases h with
    | char c h =>
      obtain ⟨s, s', rfl, hu, hv⟩ := ih h
      exact ⟨c :: s, s', rfl, char c hu, hv⟩
    | @ref e r _ _ he hr h =>
      obtain ⟨s, s', rfl, hu, hv⟩ := ih h
      exact ⟨r ++ s, s', by simp, ref he hr hu, hv⟩

/-- A stretch of a word stands for a stretch of what the word stands for. -/
theorem exists_stretch {u w : Word} {t : Text} (h : Stands E w t)
    (hu : u <:+: w) : ∃ s, Stands E u s ∧ s <:+: t := by
  obtain ⟨a, b, rfl⟩ := hu
  obtain ⟨x, z, rfl, hx, -⟩ := h.exists_of_append
  obtain ⟨y, s, rfl, -, hs⟩ := hx.exists_of_append
  exact ⟨s, hs, ⟨y, z, rfl⟩⟩

theorem exists_entry {w : Word} {t : Text} (h : Stands E w t) {r : Ref} (hr : .ref r ∈ w) :
    ∃ e ∈ E, e.ref = r := by
  induction h with
  | nil => simp at hr
  | char c _ ih => exact ih (by simpa using hr)
  | @ref e _ _ _ he _ _ _ ih =>
    rcases List.mem_cons.mp hr with hc | hc
    · exact ⟨e, he, (Atom.ref.inj hc).symm⟩
    · exact ih hc

theorem eq_render {w : Word} {t : Text} (h : Stands E w t) (hr : ∀ r, .ref r ∉ w) :
    t = render w := by
  induction h with
  | nil => rfl
  | char c _ ih => rw [render_char, ih fun r hm => hr r (List.mem_cons_of_mem _ hm)]
  | @ref e => exact absurd List.mem_cons_self (hr e.ref)

/-- Putting in what an entry records changes nothing about what the word stands for. -/
theorem subst (hE : Ledger E) {e : LedgerEntry} (he : e ∈ E) {w : Word} {t : Text}
    (h : Stands E w t) : Stands E (subst e.ref e.word w) t := by
  induction h with
  | nil => exact nil
  | char c _ ih => exact char c ih
  | @ref e' s w t he' hs _ _ ih =>
    by_cases hr : e'.ref = e.ref
    · obtain rfl := hE.unique e' he' e he hr
      have ha := hs.append ih
      simpa [TemplateGuard.subst] using ha
    · have ha := ref he' hs ih
      simpa [TemplateGuard.subst, hr] using ha

end Stands

/-- The reference's key is among those still to be expanded. -/
def Awaited (ps : List Placeholder) (r : Ref) : Prop := ∃ p ∈ ps, p.key = r.key

theorem Awaited.tail {p : Placeholder} {ps : List Placeholder} {r : Ref}
    (h : Awaited (p :: ps) r) (hn : p.key ≠ r.key) : Awaited ps r := by
  obtain ⟨q, hq, hk⟩ := h
  rcases List.mem_cons.mp hq with rfl | hm
  · exact absurd hk hn
  · exact ⟨q, hm, hk⟩

/-- Placeholders of a ledger in an order to expand them in: those with longer keys come first, and
what their words refer to is still to come. -/
structure Schedule (E : List LedgerEntry) (ps : List Placeholder) : Prop where
  sorted : ps.Pairwise fun a b => b.key.length ≤ a.key.length
  recorded : ∀ p ∈ ps, ∃ e ∈ E, e.placeholder = p ∧ ∀ r, .ref r ∈ e.word → Awaited ps r

theorem Schedule.uncons {E : List LedgerEntry} (hE : Ledger E) {p : Placeholder}
    {ps : List Placeholder} (h : Schedule E (p :: ps)) :
    Schedule E ps ∧ ∃ e ∈ E, e.placeholder = p ∧ ∀ r, .ref r ∈ e.word → Awaited ps r := by
  obtain ⟨hl, hs⟩ := List.pairwise_cons.mp h.sorted
  -- What an entry refers to has a shorter key than the entry, so it is not expanded before it.
  have later : ∀ e ∈ E, e.ref.key.length ≤ p.key.length → ∀ r, .ref r ∈ e.word →
      Awaited (p :: ps) r → Awaited ps r := by
    intro e he hle r hm ha
    obtain ⟨-, -, -, hlt⟩ := hE.nested e he r hm
    refine ha.tail fun hk => ?_
    rw [hk] at hle
    omega
  refine ⟨⟨hs, ?_⟩, ?_⟩
  · intro q hq
    obtain ⟨e, he, rfl, hr⟩ := h.recorded q (List.mem_cons_of_mem p hq)
    exact ⟨e, he, rfl, fun r hm => later e he (hl _ hq) r hm (hr r hm)⟩
  · obtain ⟨e, he, rfl, hr⟩ := h.recorded p List.mem_cons_self
    exact ⟨e, he, rfl, fun r hm => later e he (Nat.le_refl _) r hm (hr r hm)⟩

theorem Schedule.foldl_expand {E : List LedgerEntry} (hE : Ledger E) {ps : List Placeholder}
    (hp : Schedule E ps) {w : Word} {t : Text} (hw : Clean w)
    (hr : ∀ r, .ref r ∈ w → Awaited ps r) (ht : Stands E w t) :
    ps.foldl Placeholder.expand (render w) = t := by
  induction ps generalizing w with
  | nil =>
    refine (ht.eq_render fun r hm => ?_).symm
    obtain ⟨p, hp, -⟩ := hr r hm
    simp at hp
  | cons p ps ih =>
    obtain ⟨hps, e, he, rfl, hre⟩ := hp.uncons hE
    have hx : Placeholder.expand (render w) e.placeholder = render (subst e.ref e.word w) := by
      rw [expand_eq e.ref.key_ne_nil]
      exact replace_key e.ref e.word hw
    rw [List.foldl_cons, hx]
    refine ih hps (clean_subst (hE.walled e he) (hE.clean e he) hw) ?_ (ht.subst hE he)
    intro r hm
    rcases ref_mem_subst hm with ⟨hm, hne⟩ | hm
    · exact (hr r hm).tail fun hk => hne (Ref.key_injective hk).symm
    · exact hre r hm

/-- Placeholders with longer keys come first. -/
theorem pairwise_sorted (ps : List Placeholder) :
    (ps.mergeSort fun a b => decide (b.key.length ≤ a.key.length)).Pairwise
      fun a b => b.key.length ≤ a.key.length := by
  have trans : ∀ a b c : Placeholder, decide (b.key.length ≤ a.key.length) = true →
      decide (c.key.length ≤ b.key.length) = true →
      decide (c.key.length ≤ a.key.length) = true := by
    intro a b c hab hbc
    rw [decide_eq_true_eq] at hab hbc ⊢
    omega
  have total : ∀ a b : Placeholder,
      (decide (b.key.length ≤ a.key.length) || decide (a.key.length ≤ b.key.length)) = true := by
    intro a b
    rw [Bool.or_eq_true, decide_eq_true_eq, decide_eq_true_eq]
    omega
  have h := List.pairwise_mergeSort trans total ps
  simpa using h

/-- Sorting the placeholders of a ledger gives an order to expand them in, every key awaited. -/
theorem Ledger.schedule {E : List LedgerEntry} (hE : Ledger E) {ps : List Placeholder}
    (hp : ps.Perm (E.map LedgerEntry.placeholder)) :
    Schedule E (ps.mergeSort fun a b => decide (b.key.length ≤ a.key.length)) ∧
    ∀ e ∈ E, Awaited (ps.mergeSort fun a b => decide (b.key.length ≤ a.key.length)) e.ref := by
  have hm : ∀ p, p ∈ ps.mergeSort (fun a b => decide (b.key.length ≤ a.key.length)) ↔
      p ∈ E.map LedgerEntry.placeholder := by
    intro p
    rw [(List.mergeSort_perm ps _).mem_iff, hp.mem_iff]
  have hc : ∀ e ∈ E, Awaited (ps.mergeSort fun a b => decide (b.key.length ≤ a.key.length)) e.ref :=
    fun e he => ⟨e.placeholder, (hm _).mpr (List.mem_map_of_mem he), rfl⟩
  refine ⟨⟨pairwise_sorted ps, ?_⟩, hc⟩
  intro p hp
  obtain ⟨e, he, rfl⟩ := List.mem_map.mp ((hm p).mp hp)
  refine ⟨e, he, rfl, fun r hr => ?_⟩
  obtain ⟨e', he', rfl, -⟩ := hE.nested e he r hr
  exact hc e' he'

/-- The placeholders of a ledger, in any order, give back what a word over it stands for. -/
theorem Ledger.restore_eq {E : List LedgerEntry} (hE : Ledger E) {ps : List Placeholder}
    (hp : ps.Perm (E.map LedgerEntry.placeholder)) {w : Word} {t : Text} (hw : Clean w)
    (ht : Stands E w t) : restore (render w) ps = t := by
  obtain ⟨hps, hc⟩ := hE.schedule hp
  refine hps.foldl_expand hE hw ?_ ht
  intro r hr
  obtain ⟨e, he, rfl⟩ := ht.exists_entry hr
  exact hc e he

end TemplateGuard
