import TemplateGuard.Proofs.Masking.Passes

namespace TemplateGuard

namespace Vault

/-- Masks texts one after the other. -/
def maskAll : Vault → List Text → List Masked × Vault
  | v, [] => ([], v)
  | v, t :: ts => ((v.mask t).1 :: (maskAll (v.mask t).2 ts).1, (maskAll (v.mask t).2 ts).2)

/-- The vault holds a ledger whose numbers it has counted past. -/
structure Holds (v : Vault) (E : List LedgerEntry) : Prop where
  placeholders : v.placeholders = E.map LedgerEntry.placeholder
  ledger : Ledger E
  below : ∀ e ∈ E, e.ref.number < v.counter

theorem holds_empty : Holds {} [] := ⟨rfl, .empty, by simp⟩

/-- A masked text stands for its source by a ledger of its own placeholders, which is part of a
given one. -/
def Masks (E : List LedgerEntry) (t : Text) (m : Masked) : Prop :=
  ∃ E' w, Ledger E' ∧ (∀ e ∈ E', e ∈ E) ∧ Clean w ∧ Stands E' w t ∧
    m = ⟨render w, E'.map LedgerEntry.placeholder⟩

theorem Masks.mono {E E' : List LedgerEntry} (hE : ∀ e ∈ E, e ∈ E') {t : Text} {m : Masked}
    (h : Masks E t m) : Masks E' t m := by
  obtain ⟨D, w, hD, hm, hw, hs, he⟩ := h
  exact ⟨D, w, hD, fun e hd => hE e (hm e hd), hw, hs, he⟩

/-- One call keeps the vault's ledger and adds to it what its passes record. -/
theorem Holds.passes {v : Vault} {E : List LedgerEntry} (hv : v.Holds E) {t : Text}
    {ps qs : List Cover} (h : Passes v.counter t ps qs) (ht : ¬ marker <:+: t) :
    (v.mask t).2.Holds (E ++ recorded v.counter ps qs) := by
  obtain ⟨-, hp, hc⟩ := h.mask_eq
  refine ⟨?placeholders, ?ledger, ?below⟩
  case placeholders => rw [hp, hv.placeholders, List.map_append]
  case ledger =>
    refine hv.ledger.append (h.ledger ht) fun e he e' he' hr => ?_
    have h1 := hv.below e he
    have h2 := (recorded_number he').1
    rw [hr] at h1
    omega
  case below =>
    intro e he
    rw [hc]
    rcases List.mem_append.mp he with he | he
    · exact Nat.lt_of_lt_of_le (hv.below e he) (Nat.le_add_right _ _)
    · exact (recorded_number he).2

theorem Holds.mask {v : Vault} {E : List LedgerEntry} (hv : v.Holds E) {t : Text}
    (ht : ¬ marker <:+: t) :
    ∃ E', (v.mask t).2.Holds (E ++ E') ∧ Masks (E ++ E') t (v.mask t).1 := by
  obtain ⟨qs, h⟩ := exists_passes v.counter t
  exact ⟨_, hv.passes h ht, _, _, h.ledger ht, fun e he => List.mem_append_right E he, h.clean ht,
    h.stands, h.mask_eq.1⟩

theorem Holds.maskAll {v : Vault} {E : List LedgerEntry} (hv : v.Holds E) {ts : List Text}
    (ht : ∀ t ∈ ts, ¬ marker <:+: t) :
    ∃ E', (v.maskAll ts).2.Holds (E ++ E') ∧
      List.Forall₂ (Masks (E ++ E')) ts (v.maskAll ts).1 := by
  induction ts generalizing v E with
  | nil => exact ⟨[], by simpa [Vault.maskAll] using hv, List.Forall₂.nil⟩
  | cons t ts ih =>
    obtain ⟨E1, h1, hm⟩ := hv.mask (ht t List.mem_cons_self)
    obtain ⟨E2, h2, hms⟩ := ih h1 fun u hu => ht u (List.mem_cons_of_mem t hu)
    rw [List.append_assoc] at h2 hms
    refine ⟨E1 ++ E2, h2, List.Forall₂.cons (hm.mono fun e he => ?_) hms⟩
    rw [← List.append_assoc]
    exact List.mem_append_left E2 he

theorem Masks.restore_eq {E : List LedgerEntry} {t : Text} {m : Masked} (h : Masks E t m)
    {ps : List Placeholder} (hp : ps.Perm m.placeholders) : restore m.text ps = t := by
  obtain ⟨D, w, hD, -, hw, hs, rfl⟩ := h
  exact hD.restore_eq hp hw hs

theorem Masks.rehydrate_eq {v : Vault} {E : List LedgerEntry} (hv : v.Holds E) {t : Text}
    {m : Masked} (h : Masks E t m) : v.rehydrate m.text = t := by
  obtain ⟨D, w, hD, hm, hw, hs, rfl⟩ := h
  exact hv.ledger.restore_eq (by rw [hv.placeholders]) hw (hs.mono hm)

/-- Every text without the reserved marker that is masked with a vault can be restored from the
placeholders of its own call, in any order, and from the vault after any further calls. -/
theorem maskAll_round_trip (ts : List Text) (h : ∀ t ∈ ts, t.hasInfix marker = false) :
    List.Forall₂ (fun t m => (∀ ps, ps.Perm m.placeholders → restore m.text ps = t) ∧
      (({} : Vault).maskAll ts).2.rehydrate m.text = t) ts (({} : Vault).maskAll ts).1 := by
  have ht : ∀ t ∈ ts, ¬ marker <:+: t := by
    intro t hm hi
    rw [← Text.hasInfix_iff, h t hm] at hi
    simp at hi
  obtain ⟨E, hE, hm⟩ := holds_empty.maskAll ht
  exact hm.imp fun _ _ hm => ⟨fun _ hp => hm.restore_eq hp, hm.rehydrate_eq hE⟩

/-- A wrapped tag inside a bare one, and a text that comes close to the marker beside a key. -/
theorem maskAll_round_trip_nested :
    let ts : List Text := ["\x7b\x7b /* \x7b% a %\x7d */ \x7d\x7d".toList,
      "DJANGO\x7b# b #\x7d_DJANGO".toList]
    (∀ t ∈ ts, t.hasInfix marker = false) ∧
    (({} : Vault).maskAll ts).1.map Masked.text = ["__DJANGO_PLACEHOLDER_1__".toList,
      "DJANGO__DJANGO_PLACEHOLDER_2___DJANGO".toList] ∧
    List.Forall₂ (fun t m => (∀ ps, ps.Perm m.placeholders → restore m.text ps = t) ∧
      (({} : Vault).maskAll ts).2.rehydrate m.text = t) ts (({} : Vault).maskAll ts).1 := by
  intro ts
  have h : ∀ t ∈ ts, t.hasInfix marker = false := by decide +kernel
  exact ⟨h, by decide +kernel, maskAll_round_trip ts h⟩

end Vault

end TemplateGuard
