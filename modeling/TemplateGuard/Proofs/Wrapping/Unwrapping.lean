import TemplateGuard.Proofs.Gaps
import TemplateGuard.Proofs.Tag.WrappedSearch
import TemplateGuard.Proofs.Wrapping.RoundTrip

namespace TemplateGuard

/-- Unwrapping replaces each wrapped tag that is found by the tag in it. -/
theorem unwrap_eq_weave (t : Text) :
    unwrap t = Text.weave (t.gaps ((findWrapped t).map fun w => (w.start, w.stop)))
      ((findWrapped t).map fun w => w.inner.text) := by
  have h := Wrapped.pattern.replace_eq_weave Wrapped.innerText t
  simp only [Wrapped.findWrapped_eq, List.map_map]
  exact h

/-- A text is left as it is exactly if it has no wrapped tag: where one starts, a slash gives way to
a brace. -/
theorem unwrap_eq_self_iff (t : Text) : unwrap t = t ↔ hasWrapped t = false := by
  induction t using Pattern.cut_induction Wrapped.pattern_proper with
  | nil => exact iff_of_true rfl rfl
  | plain c t hn ih =>
    have hu : unwrap (c :: t) = c :: unwrap t := Pattern.replace_cons_of_none _ _ hn
    have hw : hasWrapped (c :: t) = hasWrapped t := by simp [hasWrapped, Pattern.matchesIn, hn]
    rw [hu, hw, List.cons_inj_right, ih]
  | found a b v ha hv _ =>
    have hs : (Wrapped.pattern (a ++ b)).isSome := by rw [hv]; rfl
    have hw : hasWrapped (a ++ b) = true :=
      (Pattern.matchesIn_iff _ _).mpr ⟨[], a ++ b, rfl, by simp [ha], hs⟩
    obtain ⟨x, y, hx, hy⟩ := Wrapping.unwrap_of_isSome hs
    refine iff_of_false ?_ (by simp [hw])
    intro he
    rw [hy, hx] at he
    simp at he

/-- The wrapped tags found in a text are those of the only list of spans that follow each other
without overlap, each from a comment opener, blanks and a tag opener to the first closer that blanks
and a comment end follow, such that at no place outside them an opening begins that can be completed
at all. Unwrapping puts the inner tag in the place of each of them, and that changes the text exactly
if there are any. -/
theorem findWrapped_eq_iff_and_unwrap_eq (t : Text) :
    (∀ spans, findWrapped t = spans ↔
      (spans.Pairwise fun a b => a.stop ≤ b.start) ∧ (∀ w ∈ spans, w.Delimits t) ∧
      ∀ i, (∀ w ∈ spans, i < w.start ∨ w.stop ≤ i) →
        ∀ (k : TagKind) (j : Nat), Wrapped.OpensAt k t i j →
          ∀ e stop, j + 4 ≤ e → ¬ Wrapped.CompletesAt k t e stop) ∧
    unwrap t = Text.weave (t.gaps ((findWrapped t).map fun w => (w.start, w.stop)))
      ((findWrapped t).map fun w => w.inner.text) ∧
    (unwrap t = t ↔ hasWrapped t = false) :=
  ⟨findWrapped_eq_iff_delimits t, unwrap_eq_weave t, unwrap_eq_self_iff t⟩

/-- A body that runs over a closer and the end of its own comment, a tag behind the star of a comment
end, which opens no comment for it, and a wrapped tag right behind that. -/
example :
    let t := "/*\x7b\x7b a \x7d\x7d x */ \x7d\x7d */* \x7b% b %\x7d*//*\x7b# c #\x7d */".toList
    (findWrapped t).map (fun w => (w.start, w.inner.start, w.inner.stop, w.stop)) =
      [(0, 2, 17, 20), (31, 33, 40, 43)] := by decide +kernel

end TemplateGuard
