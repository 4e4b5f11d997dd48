import TemplateGuard.Format.Guarded
import TemplateGuard.Proofs.Masking.Apart

namespace TemplateGuard

namespace Guarded

theorem result_of_error {format : Formatter Id} {kind : ParserKind} (hk : kind.masksTags = true)
    {t : Text} {f : Failure} (h : format (mask t).text kind.name = .error f) :
    (formatWithTags format kind t).1 = t := by
  have hp : prepare kind t = mask t := if_pos hk
  have hr : (formatWithTags format kind t).1 =
      (finish kind t (prepare kind t) (format (prepare kind t).text kind.name)).1 := rfl
  rw [hr, hp, h]
  rfl

theorem result_of_ok {format : Formatter Id} {kind : ParserKind} (hk : kind.masksTags = true)
    {t answer : Text} (h : format (mask t).text kind.name = .ok answer) :
    (formatWithTags format kind t).1 =
      if lost (mask t) answer = [] then restore answer (mask t).placeholders else t := by
  have hp : prepare kind t = mask t := if_pos hk
  have hr : (formatWithTags format kind t).1 =
      (finish kind t (prepare kind t) (format (prepare kind t).text kind.name)).1 := rfl
  rw [hr, hp, h, finish]
  cases hl : lost (mask t) answer with
  | nil => rfl
  | cons p ps => rfl

theorem lost_eq_nil {m : Masked} {answer : Text} (h : ∀ p ∈ m.placeholders, p.key <:+: answer) :
    lost m answer = [] := by
  rw [lost, List.filter_eq_nil_iff]
  intro p hp
  rw [(Text.hasInfix_iff _ _).mpr (h p hp)]
  simp

end Guarded

theorem restore_of_sorted {ps : List Placeholder}
    (h : ps.Pairwise fun a b => b.key.length ≤ a.key.length) (t : Text) :
    restore t ps = ps.foldl Placeholder.expand t := by
  rw [restore, List.mergeSort_of_pairwise (by simpa using h)]

/-- If no key of a nested text is gone when its turn comes, every tag of the text is restored. -/
theorem tag_infix_restore {t answer : Text} (ht : ¬ marker <:+: t) (hn : Nested t)
    (hs : restoreSkips answer (mask t).placeholders = []) {s : TagSpan} (hm : s ∈ findTags t) :
    s.text <:+: restore answer (mask t).placeholders := by
  obtain ⟨qs, h⟩ := exists_passes 0 t
  have hp : (mask t).placeholders = _ := congrArg Masked.placeholders (h.mask_eq (v := {})).1
  have hE := h.ledger ht
  obtain ⟨hsched, -⟩ := hE.schedule (.refl _)
  obtain ⟨e, he, x, hx, hsx⟩ := h.exists_piece_of_tag ht hn hm
  rw [hp] at hs ⊢
  have hmem : e.placeholder ∈ (List.map LedgerEntry.placeholder _).mergeSort
      fun a b => decide (b.key.length ≤ a.key.length) :=
    List.mem_mergeSort.mpr (List.mem_map_of_mem he)
  exact hsx.trans (hsched.infix_foldl_expand hE (fun e he => h.fenced he) hs he hmem hx)

/-- If every key stands apart in a text, restoring it passes over none. -/
theorem restoreSkips_eq_nil {t answer : Text}
    (ha : ∀ p ∈ (mask t).placeholders, StandsApart (mask t).placeholders p.key answer) :
    restoreSkips answer (mask t).placeholders = [] := by
  obtain ⟨qs, h⟩ := exists_passes 0 t
  have hp : (mask t).placeholders = _ := congrArg Masked.placeholders (h.mask_eq (v := {})).1
  rw [hp] at ha ⊢
  refine skips_eq_nil ?keys ?fenced (fun p hm => List.mem_mergeSort.mp hm) ?distinct
    fun p hm => ha p (List.mem_mergeSort.mp hm)
  case keys =>
    intro q hq
    obtain ⟨e, -, rfl⟩ := List.mem_map.mp hq
    exact ⟨e.ref, rfl⟩
  case fenced =>
    intro q hq
    obtain ⟨e, he, rfl⟩ := List.mem_map.mp hq
    exact h.fenced he
  case distinct =>
    refine (List.mergeSort_perm _ _).symm.pairwise ?_ fun hd => hd.symm
    refine List.pairwise_map.mpr ((recorded_pairwise 0 _ qs).imp ?_)
    exact fun hd hk => hd (Ref.key_injective hk)

/-- Whatever the formatter does, a text comes back as it was if the formatter fails or drops a key,
and else with all its tags if it is nested and no key is gone when its turn to be expanded comes,
which holds if every key stands somewhere in the answer apart from all others. -/
theorem formatWithTags_keeps_tags (format : Formatter Id) (kind : ParserKind)
    (hk : kind.masksTags = true) (t : Text) (ht : t.hasInfix marker = false) :
    let result := (formatWithTags format kind t).1
    (∀ f, format (mask t).text kind.name = .error f → result = t) ∧
    ∀ answer, format (mask t).text kind.name = .ok answer →
      (Guarded.lost (mask t) answer ≠ [] → result = t) ∧
      (Guarded.lost (mask t) answer = [] → Nested t →
        restoreSkips answer (mask t).placeholders = [] →
        ∀ s ∈ findTags t, s.text <:+: result) ∧
      ((∀ p ∈ (mask t).placeholders, StandsApart (mask t).placeholders p.key answer) →
        Guarded.lost (mask t) answer = [] ∧
        restoreSkips answer (mask t).placeholders = []) := by
  intro result
  have hm : ¬ marker <:+: t := (Text.hasInfix_eq_false_iff t marker).mp ht
  refine ⟨fun f hf => Guarded.result_of_error hk hf, fun answer ha => ⟨?lost, ?kept, ?apart⟩⟩
  case lost =>
    intro hl
    exact (Guarded.result_of_ok hk ha).trans (if_neg hl)
  case kept =>
    intro hl hn hs s hsm
    have hr : result = restore answer (mask t).placeholders :=
      (Guarded.result_of_ok hk ha).trans (if_pos hl)
    rw [hr]
    exact tag_infix_restore hm hn hs hsm
  case apart =>
    intro hap
    exact ⟨Guarded.lost_eq_nil fun p hp => (hap p hp).stands, restoreSkips_eq_nil hap⟩

/-- Two keys run into each other in the answer; the first one is expanded and the second one, whose
underscores are gone with it, is passed over. -/
theorem exists_partly_restored :
    ¬ ∀ (format : Formatter Id) (kind : ParserKind) (t : Text), kind.masksTags = true →
      t.hasInfix marker = false → (formatWithTags format kind t).1 = t ∨
        ∀ s ∈ findTags t, s.text <:+: (formatWithTags format kind t).1 := by
  intro h
  let format : Formatter Id := fun u _ => .ok (u.replaceAll "____".toList "__".toList)
  let t : Text := "\x7b\x7b a \x7d\x7d\x7b\x7b b \x7d\x7d".toList
  let answer : Text := "__DJANGO_PLACEHOLDER_0__DJANGO_PLACEHOLDER_1__".toList
  have ha : format (mask t).text ParserKind.babel.name = .ok answer := by
    have he : (mask t).text.replaceAll "____".toList "__".toList = answer := by decide +kernel
    exact congrArg Except.ok he
  have hl : Guarded.lost (mask t) answer = [] := by decide +kernel
  have hsorted : (mask t).placeholders.Pairwise fun a b => b.key.length ≤ a.key.length := by
    decide +kernel
  have hr : (formatWithTags format .babel t).1 =
      "\x7b\x7b a \x7d\x7dDJANGO_PLACEHOLDER_1__".toList := by
    rw [Guarded.result_of_ok rfl ha, if_pos hl, restore_of_sorted hsorted]
    decide +kernel
  have hs : (⟨7, 14, .variable, "\x7b\x7b b \x7d\x7d".toList⟩ : TagSpan) ∈ findTags t := by
    decide +kernel
  rcases h format .babel t rfl (by decide +kernel) with ht | ht
  · rw [hr] at ht
    exact absurd ht (by decide +kernel)
  · have hi := ht _ hs
    rw [hr] at hi
    exact absurd hi (by decide +kernel)

/-- A formatter that repeats the text, on a tag in the code, one in a string and a wrapped one. -/
theorem formatWithTags_keeps_tags_repeated :
    let format : Formatter Id := fun u _ => .ok (u ++ '\n' :: u)
    let t : Text := "\x7b\x7b a \x7d\x7d \"\x7b# b #\x7d\" /* \x7b% c %\x7d */".toList
    let answer : Text := (mask t).text ++ '\n' :: (mask t).text
    ParserKind.xml.masksTags = true ∧ t.hasInfix marker = false ∧
    Guarded.lost (mask t) answer = [] ∧ Nested t ∧
    restoreSkips answer (mask t).placeholders = [] ∧
    ∀ s ∈ findTags t, s.text <:+: (formatWithTags format .xml t).1 := by
  intro format t answer
  have hk : ParserKind.xml.masksTags = true := rfl
  have ht : t.hasInfix marker = false := by decide +kernel
  have hl : Guarded.lost (mask t) answer = [] := by decide +kernel
  have hn : Nested t := by decide +kernel
  have hs : restoreSkips answer (mask t).placeholders = [] := by
    have hp : (mask t).placeholders =
        [⟨"__DJANGO_WRAPPED_0__".toList, "/* \x7b% c %\x7d */".toList⟩,
          ⟨"__DJANGO_PLACEHOLDER_1__".toList, "\x7b\x7b a \x7d\x7d".toList⟩,
          ⟨"__DJANGO_PLACEHOLDER_2__".toList, "\x7b# b #\x7d".toList⟩] := by decide +kernel
    have ho : ((mask t).placeholders.mergeSort fun p q => decide (q.key.length ≤ p.key.length)) =
        [⟨"__DJANGO_PLACEHOLDER_1__".toList, "\x7b\x7b a \x7d\x7d".toList⟩,
          ⟨"__DJANGO_PLACEHOLDER_2__".toList, "\x7b# b #\x7d".toList⟩,
          ⟨"__DJANGO_WRAPPED_0__".toList, "/* \x7b% c %\x7d */".toList⟩] := by
      rw [hp]
      simp [List.mergeSort, List.MergeSort.Internal.splitInTwo]
    rw [restoreSkips, ho]
    decide +kernel
  obtain ⟨-, h⟩ := formatWithTags_keeps_tags format .xml hk t ht
  exact ⟨hk, ht, hl, hn, hs, (h answer rfl).2.1 hl hn hs⟩

end TemplateGuard
