import Mathlib.Data.Nat.Find
import TemplateGuard.Proofs.Tag.Search
import TemplateGuard.Proofs.Tag.WrappedShape

namespace TemplateGuard

namespace Wrapped

/-- A comment opener stands at `i`, and behind it only blanks before an opener of the kind at
`j`. -/
def OpensAt (k : TagKind) (t : Text) (i j : Nat) : Prop :=
  ∃ ws, Blank ws ∧ BeginsAt (['/', '*'] ++ ws ++ k.opener) t i ∧ j = i + 2 + ws.length

/-- A closer of the kind ends at `e`, and behind it only blanks stand before a comment end, which
ends at `stop`. -/
def CompletesAt (k : TagKind) (t : Text) (e stop : Nat) : Prop :=
  BeginsAt k.closer t (e - 2) ∧
    ∃ ws, Blank ws ∧ BeginsAt (commentEnd ws) t e ∧ stop = e + ws.length + 2

/-- What the opener of a tag at `j` is completed by: the first closer, not counting one that would
share characters with the opener, that a comment end follows. -/
structure FirstCompletion (k : TagKind) (t : Text) (j e stop : Nat) : Prop where
  le : j + 4 ≤ e
  completes : CompletesAt k t e stop
  least : ∀ e' stop', j + 4 ≤ e' → e' < e → ¬ CompletesAt k t e' stop'

/-- What follows a closer of the kind at the head of a text: the length of the blanks and the
comment end. -/
def completion (k : TagKind) : Text → Option Nat
  | a :: b :: rest => if a = k.closeMark ∧ b = '}' then endLength rest else none
  | _ => none

theorem closeLengths_cons (k : TagKind) (c : Char) (t : Text) :
    closeLengths k (c :: t) =
      match completion k (c :: t) with
      | some e => some (2, e)
      | none => (closeLengths k t).map fun (n, e) => (n + 1, e) := by
  cases t with
  | nil => rfl
  | cons d t => rfl

/-- The closer that is taken is the first that can be completed. -/
theorem closeLengths_eq_some_iff (k : TagKind) (t : Text) (n e : Nat) :
    closeLengths k t = some (n, e) ↔
      ∃ d, n = d + 2 ∧ completion k (t.drop d) = some e ∧
        ∀ d', d' < d → completion k (t.drop d') = none := by
  induction t generalizing n with
  | nil => simp [closeLengths, completion]
  | cons c t ih =>
    rw [closeLengths_cons]
    cases hc : completion k (c :: t) with
    | some e' =>
      constructor
      · intro h
        obtain ⟨rfl, rfl⟩ := Prod.mk.inj (Option.some.inj h)
        exact ⟨0, rfl, hc, by simp⟩
      · rintro ⟨d, rfl, hd, hfirst⟩
        cases d with
        | zero =>
          have he : some e' = some e := hc.symm.trans hd
          rw [Option.some.inj he]
        | succ d =>
          have hn := hfirst 0 (Nat.succ_pos d)
          rw [List.drop_zero, hc] at hn
          exact absurd hn (by simp)
    | none =>
      constructor
      · intro h
        obtain ⟨⟨m, f⟩, hm, hp⟩ := Option.map_eq_some_iff.mp h
        obtain ⟨rfl, rfl⟩ := Prod.mk.inj hp
        obtain ⟨d, rfl, hd, hfirst⟩ := (ih m).mp hm
        refine ⟨d + 1, rfl, hd, fun d' hlt => ?_⟩
        cases d' with
        | zero => exact hc
        | succ d' => exact hfirst d' (Nat.lt_of_succ_lt_succ hlt)
      · rintro ⟨d, rfl, hd, hfirst⟩
        cases d with
        | zero =>
          rw [List.drop_zero, hc] at hd
          exact absurd hd (by simp)
        | succ d =>
          have hm := (ih (d + 2)).mpr
            ⟨d, rfl, hd, fun d' hlt => hfirst (d' + 1) (Nat.succ_lt_succ hlt)⟩
          rw [hm]
          rfl

theorem endLength_eq_some_iff (t : Text) (n : Nat) :
    endLength t = some n ↔ ∃ ws, Blank ws ∧ commentEnd ws <+: t ∧ n = ws.length + 2 := by
  constructor
  · intro h
    obtain ⟨ws, rest, hw, rfl, rfl⟩ := exists_of_endLength h
    exact ⟨ws, hw, List.prefix_append _ rest, rfl⟩
  · rintro ⟨ws, hw, ⟨rest, rfl⟩, rfl⟩
    exact endLength_append hw rest

theorem completion_eq_some_iff (k : TagKind) (t : Text) (n : Nat) :
    completion k t = some n ↔ k.closer <+: t ∧ endLength (t.drop 2) = some n := by
  unfold completion
  split
  · next a b rest =>
    have hp : k.closer <+: a :: b :: rest ↔ a = k.closeMark ∧ b = '}' := by
      simp [TagKind.closer, List.cons_prefix_cons, eq_comm]
    rw [hp]
    split_ifs with hc <;> simp [hc]
  · next hne =>
    refine iff_of_false (by simp) ?_
    rintro ⟨⟨rest, rfl⟩, -⟩
    exact hne k.closeMark '}' rest rfl

theorem completesAt_iff (k : TagKind) (t : Text) (j stop : Nat) :
    CompletesAt k t (j + 2) stop ↔ ∃ n, completion k (t.drop j) = some n ∧ stop = j + 2 + n := by
  constructor
  · rintro ⟨hc, ws, hw, he, rfl⟩
    refine ⟨ws.length + 2, (completion_eq_some_iff k _ _).mpr ⟨hc, ?_⟩, Nat.add_assoc _ _ _⟩
    rw [List.drop_drop]
    exact (endLength_eq_some_iff _ _).mpr ⟨ws, hw, he, rfl⟩
  · rintro ⟨n, hn, rfl⟩
    obtain ⟨hc, he⟩ := (completion_eq_some_iff k _ _).mp hn
    rw [List.drop_drop] at he
    obtain ⟨ws, hw, hp, rfl⟩ := (endLength_eq_some_iff _ _).mp he
    exact ⟨hc, ws, hw, hp, (Nat.add_assoc _ _ _).symm⟩

/-- The search behind a tag opener finds its first completion. -/
theorem closeLengths_drop_iff (k : TagKind) (t : Text) (j n e : Nat) :
    closeLengths k (t.drop (j + 2)) = some (n, e) ↔
      FirstCompletion k t j (j + 2 + n) (j + 2 + n + e) := by
  rw [closeLengths_eq_some_iff]
  simp only [List.drop_drop]
  constructor
  · rintro ⟨d, rfl, hd, hfirst⟩
    refine ⟨by omega, (completesAt_iff k t (j + 2 + d) _).mpr ⟨e, hd, rfl⟩, ?least⟩
    intro e' stop' hle hlt hc
    obtain ⟨d', rfl⟩ := Nat.exists_eq_add_of_le hle
    have he : j + 4 + d' = j + 2 + d' + 2 := by omega
    rw [he] at hc
    obtain ⟨m, hm, -⟩ := (completesAt_iff k t (j + 2 + d') stop').mp hc
    rw [hfirst d' (by omega)] at hm
    exact absurd hm (by simp)
  · rintro ⟨hle, hc, hleast⟩
    obtain ⟨d, rfl⟩ := Nat.exists_eq_add_of_le' (show 2 ≤ n by omega)
    obtain ⟨m, hm, hs⟩ := (completesAt_iff k t (j + 2 + d) _).mp hc
    obtain rfl : e = m := by omega
    refine ⟨d, rfl, hm, fun d' hlt => ?first⟩
    cases hd : completion k (t.drop (j + 2 + d')) with
    | none => rfl
    | some m' =>
      have hc' := (completesAt_iff k t (j + 2 + d') _).mpr ⟨m', hd, rfl⟩
      exact absurd hc' (hleast _ _ (by omega) (by omega))

/-- The pattern takes a wrapped tag at an offset up to its first completion. -/
theorem pattern_drop_eq_some_iff (t : Text) (i n : Nat) (v : Inside) :
    pattern (t.drop i) = some ⟨n, v⟩ ↔
      OpensAt v.kind t i (i + v.lead) ∧
        FirstCompletion v.kind t (i + v.lead) (i + v.lead + v.length) (i + n) := by
  have hdrop : ∀ {k : TagKind} {ws rest : Text},
      t.drop i = ['/', '*'] ++ ws ++ k.opener ++ rest →
        t.drop (i + (ws.length + 2) + 2) = rest := by
    intro k ws rest h
    have hl : i + (ws.length + 2) + 2 = i + (['/', '*'] ++ ws ++ k.opener).length := by
      simp [TagKind.opener]
      omega
    rw [hl, ← List.drop_drop, h, List.drop_left]
  constructor
  · intro h
    obtain ⟨ws, k, rest, m, e, hw, he, hc, hv⟩ := (pattern_eq_some_iff _ _).mp h
    obtain ⟨rfl, rfl⟩ := Taken.mk.inj hv
    rw [← hdrop he, closeLengths_drop_iff] at hc
    refine ⟨⟨ws, hw, ⟨rest, he.symm⟩, by simp only; omega⟩, ?_⟩
    have h1 : i + (ws.length + 2) + (m + 2) = i + (ws.length + 2) + 2 + m := by omega
    have h2 : i + (ws.length + (m + 2) + e + 2) = i + (ws.length + 2) + 2 + m + e := by omega
    simp only [h1, h2]
    exact hc
  · rintro ⟨⟨ws, hw, ⟨rest, hr⟩, hj⟩, hc⟩
    obtain ⟨k, lead, l⟩ := v
    obtain rfl : lead = ws.length + 2 := by simp only at hj; omega
    have hle := hc.le
    obtain ⟨-, ws', -, -, hstop⟩ := hc.completes
    simp only at hle hstop hr hc
    obtain ⟨m, rfl⟩ := Nat.exists_eq_add_of_le' (show 2 ≤ l by omega)
    have h1 : i + (ws.length + 2) + (m + 2) = i + (ws.length + 2) + 2 + m := by omega
    have h2 : i + n = i + (ws.length + 2) + 2 + m + (ws'.length + 2) := by omega
    have hcl : closeLengths k rest = some (m, ws'.length + 2) := by
      rw [← hdrop hr.symm, closeLengths_drop_iff, ← h2, ← h1]
      exact hc
    refine (pattern_eq_some_iff _ _).mpr ⟨ws, k, rest, m, ws'.length + 2, hw, hr.symm, hcl, ?_⟩
    rw [Taken.mk.injEq]
    exact ⟨by omega, rfl⟩

/-- Where an opener can be completed, there is a first completion. -/
theorem exists_firstCompletion {k : TagKind} {t : Text} {j e stop : Nat} (hle : j + 4 ≤ e)
    (hc : CompletesAt k t e stop) : ∃ e' stop', FirstCompletion k t j e' stop' := by
  classical
  have hex : ∃ e, j + 4 ≤ e ∧ ∃ stop, CompletesAt k t e stop := ⟨e, hle, stop, hc⟩
  obtain ⟨hle', stop', hc'⟩ := Nat.find_spec hex
  refine ⟨Nat.find hex, stop', hle', hc', ?_⟩
  intro e' s h1 h2 hs
  exact Nat.find_min hex h2 ⟨h1, s, hs⟩

/-- The pattern takes nothing at an offset exactly if no opening there can be completed. -/
theorem pattern_drop_eq_none_iff (t : Text) (i : Nat) : pattern (t.drop i) = none ↔
    ∀ (k : TagKind) (j : Nat), OpensAt k t i j →
      ∀ e stop, j + 4 ≤ e → ¬ CompletesAt k t e stop := by
  constructor
  · intro hn k j ho e stop hle hc
    obtain ⟨e', stop', hf⟩ := exists_firstCompletion hle hc
    have hj : i ≤ j := by
      obtain ⟨ws, -, -, rfl⟩ := ho
      omega
    have hs : i ≤ stop' := by
      obtain ⟨-, ws, -, -, hs⟩ := hf.completes
      have h := hf.le
      omega
    have h := hf.le
    obtain ⟨lead, rfl⟩ := Nat.exists_eq_add_of_le hj
    obtain ⟨n, rfl⟩ := Nat.exists_eq_add_of_le hs
    obtain ⟨l, rfl⟩ := Nat.exists_eq_add_of_le (show i + lead ≤ e' by omega)
    have hp := (pattern_drop_eq_some_iff t i n ⟨k, lead, l⟩).mpr ⟨ho, hf⟩
    rw [hn] at hp
    exact absurd hp (by simp)
  · intro h
    cases hp : pattern (t.drop i) with
    | none => rfl
    | some m =>
      obtain ⟨ho, hf⟩ := (pattern_drop_eq_some_iff t i m.length m.value).mp hp
      exact absurd hf.completes (h _ _ ho _ _ hf.le)

end Wrapped

/-- The span holds a whole comment around a tag: the tag starts behind the comment opener and
blanks, and ends at the first closer that completes the comment. -/
structure WrappedSpan.Delimits (w : WrappedSpan) (t : Text) : Prop where
  text_eq : w.inner.text = t.between w.inner.start w.inner.stop
  opens : Wrapped.OpensAt w.inner.kind t w.start w.inner.start
  closes : Wrapped.FirstCompletion w.inner.kind t w.inner.start w.inner.stop w.stop

namespace Wrapped

/-- A match as a span of the text. -/
def spanOf (m : Nat × Text × Inside) : WrappedSpan :=
  ⟨m.1, m.1 + m.2.1.length,
    ⟨m.1 + m.2.2.lead, m.1 + m.2.2.lead + m.2.2.length, m.2.2.kind, innerText m.2.1 m.2.2⟩⟩

/-- The match in the text that a span stands for. -/
def matchOf (t : Text) (w : WrappedSpan) : Nat × Text × Inside :=
  (w.start, t.between w.start w.stop,
    ⟨w.inner.kind, w.inner.start - w.start, w.inner.stop - w.inner.start⟩)

theorem findWrapped_eq (t : Text) : findWrapped t = (pattern.locate t).map spanOf := rfl

theorem delimits_spanOf {t : Text} {m : Nat × Text × Inside} (h : pattern.TakenAt t m) :
    (spanOf m).Delimits t ∧ matchOf t (spanOf m) = m := by
  obtain ⟨i, x, v⟩ := m
  obtain ⟨⟨rest, hr⟩, hp⟩ := h
  obtain ⟨ho, hf⟩ := (pattern_drop_eq_some_iff t i x.length v).mp hp
  have hlead : v.lead + v.length ≤ x.length := by
    obtain ⟨-, ws, -, -, hs⟩ := hf.completes
    omega
  have hx : t.between i (i + x.length) = x := by
    rw [Text.between, ← hr, Nat.add_sub_cancel_left, List.take_left]
  have htext : innerText x v = t.between (i + v.lead) (i + v.lead + v.length) := by
    have hl : v.lead ≤ x.length := by omega
    have hd : v.length ≤ (x.drop v.lead).length := by
      rw [List.length_drop]
      omega
    rw [Text.between, Nat.add_sub_cancel_left, ← List.drop_drop, ← hr,
      List.drop_append_of_le_length hl, List.take_append_of_le_length hd, innerText]
  refine ⟨⟨htext, ho, hf⟩, ?_⟩
  simp only [matchOf, spanOf, hx, Nat.add_sub_cancel_left]

theorem takenAt_matchOf {t : Text} {w : WrappedSpan} (h : w.Delimits t) :
    pattern.TakenAt t (matchOf t w) ∧ spanOf (matchOf t w) = w ∧ (matchOf t w).1 = w.start ∧
      (matchOf t w).1 + (matchOf t w).2.1.length = w.stop := by
  obtain ⟨start, stop, inner, innerStop, k, x⟩ := w
  obtain ⟨htext, ho, hf⟩ := h
  simp only at htext ho hf
  have hle := hf.le
  obtain ⟨-, ws, -, hend, hstop⟩ := hf.completes
  have hlen : stop ≤ t.length := by
    have h := hend.length_le
    simp only [commentEnd, List.length_append, List.length_drop, List.length_cons,
      List.length_nil] at h
    omega
  have hj : start ≤ inner := by
    obtain ⟨ws', -, -, hj⟩ := ho
    omega
  obtain ⟨lead, rfl⟩ := Nat.exists_eq_add_of_le hj
  obtain ⟨l, rfl⟩ := Nat.exists_eq_add_of_le (show start + lead ≤ innerStop by omega)
  obtain ⟨n, rfl⟩ := Nat.exists_eq_add_of_le (show start ≤ stop by omega)
  have hl : (t.between start (start + n)).length = n := by
    rw [Text.between, List.length_take, List.length_drop]
    omega
  have ht : pattern.TakenAt t (start, t.between start (start + n), ⟨k, lead, l⟩) := by
    refine ⟨List.take_prefix _ _, ?_⟩
    rw [hl]
    exact (pattern_drop_eq_some_iff t start n ⟨k, lead, l⟩).mpr ⟨ho, hf⟩
  have hm : matchOf t ⟨start, start + n, ⟨start + lead, start + lead + l, k, x⟩⟩ =
      (start, t.between start (start + n), ⟨k, lead, l⟩) := by
    simp only [matchOf, Nat.add_sub_cancel_left]
  rw [hm]
  refine ⟨ht, ?_, rfl, by rw [hl]⟩
  have hi := (delimits_spanOf ht).1.text_eq
  simp only [spanOf, hl] at hi ⊢
  rw [hi, htext]

end Wrapped

/-- The wrapped tags found are the one list of spans that follow each other, each a whole comment
around a tag, such that nowhere outside them an opening can be completed. -/
theorem findWrapped_eq_iff_delimits (t : Text) (spans : List WrappedSpan) :
    findWrapped t = spans ↔
      (spans.Pairwise fun a b => a.stop ≤ b.start) ∧ (∀ w ∈ spans, w.Delimits t) ∧
      ∀ i, (∀ w ∈ spans, i < w.start ∨ w.stop ≤ i) →
        ∀ (k : TagKind) (j : Nat), Wrapped.OpensAt k t i j →
          ∀ e stop, j + 4 ≤ e → ¬ Wrapped.CompletesAt k t e stop := by
  simp only [← Wrapped.pattern_drop_eq_none_iff]
  rw [Wrapped.findWrapped_eq]
  exact Pattern.map_locate_eq_iff Wrapped.pattern_proper
    (fun _ hm => Wrapped.delimits_spanOf hm) (fun _ hw => Wrapped.takenAt_matchOf hw) spans

end TemplateGuard
