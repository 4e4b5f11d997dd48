import Mathlib.Algebra.GroupWithZero.Nat
import Mathlib.Data.List.Nodup
import TemplateGuard.Proofs.Masking.RoundTrip

namespace TemplateGuard

/-- The number of places at which a text holds `key`, overlapping ones counted as well. -/
def occurrences (key t : Text) : Nat := t.tails.countP fun s => key.isPrefixOf s

theorem occurrences_cons (key : Text) (c : Char) (t : Text) : occurrences key (c :: t) =
    occurrences key t + if key.isPrefixOf (c :: t) then 1 else 0 := by
  rw [occurrences, List.tails_cons, List.countP_cons]
  rfl

theorem occurrences_pos_iff (key t : Text) : 0 < occurrences key t ↔ key <:+: t := by
  rw [occurrences, List.countP_pos_iff, List.infix_iff_prefix_suffix]
  constructor
  · rintro ⟨s, hs, hp⟩
    exact ⟨s, List.isPrefixOf_iff_prefix.mp hp, (List.mem_tails s t).mp hs⟩
  · rintro ⟨s, hp, hs⟩
    exact ⟨s, (List.mem_tails s t).mpr hs, List.isPrefixOf_iff_prefix.mpr hp⟩

theorem occurrences_eq_zero_iff (key t : Text) : occurrences key t = 0 ↔ ¬ key <:+: t := by
  rw [← occurrences_pos_iff, Nat.pos_iff_ne_zero, not_not]

/-- A stretch in which `key` nowhere begins counts for nothing. -/
theorem occurrences_append_of_none {key a b : Text}
    (h : ∀ x y, a = x ++ y → y ≠ [] → ¬ key <+: y ++ b) :
    occurrences key (a ++ b) = occurrences key b := by
  induction a with
  | nil => rfl
  | cons c a ih =>
    have hc : ¬ key.isPrefixOf (c :: (a ++ b)) = true := by
      rw [List.isPrefixOf_iff_prefix]
      exact h [] (c :: a) rfl (by simp)
    rw [List.cons_append, occurrences_cons, if_neg hc, Nat.add_zero]
    exact ih fun x y he hy => h (c :: x) y (by rw [he, List.cons_append]) hy

/-- In the text of a clean word a key stands as often as its reference does in the word. -/
theorem occurrences_render {w : Word} (h : Clean w) (r : Ref) :
    occurrences r.key (render w) = w.count (.ref r) := by
  induction w with
  | nil => exact (occurrences_eq_zero_iff _ _).mpr fun hi => r.key_ne_nil (List.infix_nil.mp hi)
  | cons x w ih =>
    have hw : Clean w := h.of_stretch (List.infix_cons (List.infix_refl w))
    cases x with
    | char c =>
      have hn : ¬ r.key.isPrefixOf (c :: render w) = true := by
        rw [List.isPrefixOf_iff_prefix]
        exact not_key_before_char hw r
      rw [render_char, occurrences_cons, if_neg hn, ih hw]
      simp
    | ref r' =>
      obtain ⟨c, k, hk⟩ := List.exists_cons_of_ne_nil r'.key_ne_nil
      have hrest : occurrences r.key (k ++ render w) = occurrences r.key (render w) :=
        occurrences_append_of_none fun y z he hz =>
          not_key_inside hw (y := c :: y) (by simp) hz (by rw [hk, he]; rfl)
      have hhead : r.key.isPrefixOf (c :: (k ++ render w)) = true ↔ r' = r := by
        rw [List.isPrefixOf_iff_prefix, ← List.cons_append, ← hk]
        constructor
        · exact fun hp => (Ref.eq_of_key_at_head hp).symm
        · rintro rfl
          exact List.prefix_append _ _
      rw [render_ref, hk, List.cons_append, occurrences_cons, hrest, ih hw, List.count_cons]
      simp only [hhead, beq_iff_eq, Atom.ref.injEq]

/-- A pass moves the atoms of what it hides into its entries and adds the references it mints. -/
theorem count_mint (k : KeyKind) (n : Nat) (qs : List Cover) (x : Atom) :
    (mint k n qs).count x + ((entries k n qs).map fun e => e.word.count x).sum =
      (uncover qs).count x + ((entries k n qs).map fun e => Atom.ref e.ref).count x := by
  induction qs generalizing n with
  | nil => rfl
  | cons q qs ih =>
    cases q with
    | kept y =>
      have hi := ih n
      simp only [mint, entries, uncover_cons, Cover.word, List.count_append, List.count_cons,
        List.count_nil] at hi ⊢
      omega
    | hidden u =>
      have hi := ih (n + 1)
      simp only [mint, entries, uncover_cons, Cover.word, List.count_append, List.count_cons,
        List.map_cons, List.sum_cons] at hi ⊢
      omega

/-- Of numbers that add up to one, exactly one is positive. -/
theorem exists_only_of_sum_eq_one {α : Type} {f : α → Nat} {l : List α} (h : (l.map f).sum = 1) :
    ∃ a ∈ l, 0 < f a ∧ ∀ b ∈ l, 0 < f b → b = a := by
  induction l with
  | nil => simp at h
  | cons a l ih =>
    rw [List.map_cons, List.sum_cons] at h
    rcases Nat.eq_zero_or_pos (f a) with ha | ha
    · obtain ⟨c, hc, hp, hu⟩ := ih (by omega)
      refine ⟨c, List.mem_cons_of_mem a hc, hp, fun b hb hbp => ?_⟩
      rcases List.mem_cons.mp hb with rfl | hb
      · omega
      · exact hu b hb hbp
    · have hz : (l.map f).sum = 0 := by omega
      refine ⟨a, List.mem_cons_self, ha, fun b hb hbp => ?_⟩
      rcases List.mem_cons.mp hb with rfl | hb
      · rfl
      · have hb0 := List.sum_eq_zero_iff_forall_eq_nat.mp hz (f b) (List.mem_map_of_mem hb)
        omega

namespace Passes

variable {n : Nat} {t : Text} {ps qs : List Cover}

theorem count_total (h : Passes n t ps qs) {e : LedgerEntry} (he : e ∈ recorded n ps qs) :
    (masked n ps qs).count (.ref e.ref) +
      ((recorded n ps qs).map fun e' => e'.word.count (.ref e.ref)).sum = 1 := by
  have hfirst := count_mint .wrapped n ps (.ref e.ref)
  have hsecond := count_mint .bare (n + (entries .wrapped n ps).length) qs (.ref e.ref)
  have hsource : (chars t).count (.ref e.ref) = 0 :=
    List.count_eq_zero_of_not_mem (ref_not_mem_chars e.ref t)
  have hminted : ((recorded n ps qs).map fun e' => Atom.ref e'.ref).count (.ref e.ref) = 1 := by
    refine List.count_eq_one_of_mem ?_ (List.mem_map_of_mem he)
    refine List.pairwise_map.mpr ((recorded_pairwise n ps qs).imp ?_)
    exact fun hd hr => hd (Atom.ref.inj hr)
  rw [h.source, hsource] at hfirst
  rw [h.between] at hsecond
  simp only [recorded, List.map_append, List.sum_append, List.count_append] at hminted ⊢
  unfold masked
  omega

/-- Only bare entries refer to others, and only to wrapped ones. -/
theorem kinds_of_ref_mem (h : Passes n t ps qs) {e : LedgerEntry} (he : e ∈ recorded n ps qs)
    {r : Ref} (hr : .ref r ∈ e.word) : e.ref.kind = .bare ∧ r.kind = .wrapped := by
  rcases List.mem_append.mp he with he | he
  · exact absurd hr (h.ref_not_mem_outer he r)
  · obtain ⟨e', he', rfl⟩ := h.stands_between.exists_entry ((h.infix_between he).subset hr)
    exact ⟨(of_mem_entries he).1, (of_mem_entries he').1⟩

/-- The key of an entry is there once, in what masking leaves or in what some entry covers. -/
theorem occurrences_total (h : Passes n t ps qs) (ht : ¬ marker <:+: t) {e : LedgerEntry}
    (he : e ∈ recorded n ps qs) :
    occurrences e.ref.key (render (masked n ps qs)) +
      ((recorded n ps qs).map fun e' => occurrences e.ref.key (render e'.word)).sum = 1 := by
  have hm : (recorded n ps qs).map (fun e' => occurrences e.ref.key (render e'.word)) =
      (recorded n ps qs).map fun e' => e'.word.count (.ref e.ref) :=
    List.map_congr_left fun e' he' => occurrences_render ((h.ledger ht).clean e' he') e.ref
  rw [occurrences_render (h.clean ht), hm]
  exact h.count_total he

/-- Only bare entries cover keys, and only those of wrapped ones. -/
theorem kinds_of_key_infix (h : Passes n t ps qs) (ht : ¬ marker <:+: t) {e : LedgerEntry}
    (he : e ∈ recorded n ps qs) {r : Ref} (hr : r.key <:+: render e.word) :
    e.ref.kind = .bare ∧ r.kind = .wrapped := by
  rw [← occurrences_pos_iff, occurrences_render ((h.ledger ht).clean e he),
    List.count_pos_iff] at hr
  exact h.kinds_of_ref_mem he hr

/-- A key that masking does not leave in the text is covered by exactly one entry. -/
theorem exists_only_cover (h : Passes n t ps qs) (ht : ¬ marker <:+: t) {e : LedgerEntry}
    (he : e ∈ recorded n ps qs) (hn : ¬ e.ref.key <:+: render (masked n ps qs)) :
    ∃ d ∈ recorded n ps qs, e.ref.key <:+: render d.word ∧
      ∀ d' ∈ recorded n ps qs, e.ref.key <:+: render d'.word → d' = d := by
  have htotal := h.occurrences_total ht he
  rw [(occurrences_eq_zero_iff _ _).mpr hn, Nat.zero_add] at htotal
  obtain ⟨d, hd, hpos, honly⟩ := exists_only_of_sum_eq_one htotal
  exact ⟨d, hd, (occurrences_pos_iff _ _).mp hpos,
    fun d' hd' hk => honly d' hd' ((occurrences_pos_iff _ _).mpr hk)⟩

theorem key_infix_of_bare (h : Passes n t ps qs) (ht : ¬ marker <:+: t) {e : LedgerEntry}
    (he : e ∈ recorded n ps qs) (hb : e.ref.kind = .bare) :
    e.ref.key <:+: render (masked n ps qs) := by
  by_contra hn
  obtain ⟨d, hd, hk, -⟩ := h.exists_only_cover ht he hn
  rw [(h.kinds_of_key_infix ht hd hk).2] at hb
  exact KeyKind.noConfusion hb

/-- What a wrapped entry covers is a stretch of the text. -/
theorem infix_source (h : Passes n t ps qs) {e : LedgerEntry} (he : e ∈ recorded n ps qs)
    (hw : e.ref.kind = .wrapped) : render e.word <:+: t := by
  rcases List.mem_append.mp he with he | he
  · obtain ⟨a, b, hab⟩ := infix_of_hidden (of_mem_entries he).2.2.2
    refine ⟨render a, render b, ?_⟩
    rw [← render_append, ← render_append, hab, h.source, render_chars]
  · rw [(of_mem_entries he).1] at hw
    exact KeyKind.noConfusion hw

end Passes

/-- The key is one of this kind. -/
def Placeholder.OfKind (p : Placeholder) (kind : KeyKind) : Prop :=
  ∃ n, p.key = Placeholder.keyOf kind.name n

theorem LedgerEntry.ofKind_iff (e : LedgerEntry) (kind : KeyKind) :
    e.placeholder.OfKind kind ↔ e.ref.kind = kind := by
  constructor
  · rintro ⟨n, hn⟩
    have hkey : e.ref.key = Ref.key ⟨kind, n⟩ := hn
    exact congrArg Ref.kind (Ref.key_injective hkey)
  · rintro rfl
    exact ⟨e.ref.number, rfl⟩

theorem marker_infix_keyOf (kind : Text) (n : Nat) : marker <:+: Placeholder.keyOf kind n := by
  have he : Placeholder.keyOf kind n =
      ['_', '_'] ++ marker ++ (kind ++ ['_'] ++ Nat.toDigits 10 n ++ ['_', '_']) := by
    unfold Placeholder.keyOf
    rw [start_eq]
    simp only [List.cons_append, List.nil_append, List.append_assoc]
  rw [he]
  exact List.infix_append _ _ _

/-- In all that masking a text without the reserved marker gives, every key stands exactly once: the
key of a bare tag in the masked text, the key of a wrapped tag there or in what the placeholder of
one bare tag covers. What the placeholder of a wrapped tag covers holds no key of any kind. -/
theorem mask_conserves_keys (v : Vault) (t : Text) (ht : t.hasInfix marker = false) :
    let m := (v.mask t).1
    ∀ p ∈ m.placeholders,
      occurrences p.key m.text + (m.placeholders.map fun q => occurrences p.key q.covered).sum = 1 ∧
      (p.OfKind .bare ∨ p.OfKind .wrapped) ∧
      (p.OfKind .bare → p.key <:+: m.text) ∧
      (p.OfKind .wrapped →
        (p.key <:+: m.text ∨
          ∃! q, q ∈ m.placeholders ∧ q.OfKind .bare ∧ p.key <:+: q.covered) ∧
        ∀ kind n, ¬ Placeholder.keyOf kind n <:+: p.covered) := by
  intro m p hp
  have hm : ¬ marker <:+: t := (Text.hasInfix_eq_false_iff t marker).mp ht
  obtain ⟨qs, h⟩ := exists_passes v.counter t
  have hmask : m = _ := h.mask_eq.1
  rw [hmask] at hp ⊢
  obtain ⟨e, he, rfl⟩ := List.mem_map.mp hp
  simp only [e.ofKind_iff]
  refine ⟨?total, ?kinds, h.key_infix_of_bare hm he, fun hw => ⟨?place, ?covered⟩⟩
  case total =>
    rw [List.map_map]
    exact h.occurrences_total hm he
  case kinds =>
    cases e.ref.kind with
    | wrapped => exact Or.inr rfl
    | bare => exact Or.inl rfl
  case place =>
    rw [or_iff_not_imp_left]
    intro hn
    obtain ⟨d, hd, hk, honly⟩ := h.exists_only_cover hm he hn
    have hb : d.placeholder.OfKind .bare :=
      (d.ofKind_iff .bare).mpr (h.kinds_of_key_infix hm hd hk).1
    refine ⟨d.placeholder, ⟨List.mem_map_of_mem hd, hb, hk⟩, ?_⟩
    rintro q ⟨hq, -, hqk⟩
    obtain ⟨d', hd', rfl⟩ := List.mem_map.mp hq
    rw [honly d' hd' hqk]
  case covered =>
    intro kind n hk
    exact hm (((marker_infix_keyOf kind n).trans hk).trans (h.infix_source he hw))

/-- Two wrapped tags inside a bare one, one beside it, and text that comes close to the marker. -/
theorem mask_conserves_keys_nested :
    let t : Text := ("\x7b\x7b /* \x7b% a %\x7d *//* \x7b# b #\x7d */ \x7d\x7d /* \x7b% c %\x7d */" ++
      " DJANGO\x7b\x7b d \x7d\x7d").toList
    let m := (({} : Vault).mask t).1
    t.hasInfix marker = false ∧
    m.text = ("__DJANGO_PLACEHOLDER_3__ __DJANGO_WRAPPED_2__" ++
      " DJANGO__DJANGO_PLACEHOLDER_4__").toList ∧
    ∀ p ∈ m.placeholders,
      occurrences p.key m.text + (m.placeholders.map fun q => occurrences p.key q.covered).sum = 1 ∧
      (p.OfKind .bare ∨ p.OfKind .wrapped) ∧
      (p.OfKind .bare → p.key <:+: m.text) ∧
      (p.OfKind .wrapped →
        (p.key <:+: m.text ∨
          ∃! q, q ∈ m.placeholders ∧ q.OfKind .bare ∧ p.key <:+: q.covered) ∧
        ∀ kind n, ¬ Placeholder.keyOf kind n <:+: p.covered) := by
  intro t m
  have ht : t.hasInfix marker = false := by decide +kernel
  exact ⟨ht, by decide +kernel, mask_conserves_keys {} t ht⟩

end TemplateGuard
