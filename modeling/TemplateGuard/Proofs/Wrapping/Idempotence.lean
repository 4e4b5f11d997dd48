import TemplateGuard.Proofs.Wrapping.LexicalStructure

namespace TemplateGuard.Wrapping

theorem length_source_le (ps : List (Piece TagKind)) (ds : List Bool) :
    (ps.flatMap Piece.source).length ≤ (assemble ps ds).length := by
  rw [← before_partsOf ps ds, ← after_partsOf ps ds]
  induction partsOf ps ds with
  | nil => exact Nat.le_refl 0
  | cons q qs ih =>
    cases q with
    | kept c => simpa using ih
    | enclosed k s =>
      simp only [before_enclosed, after_enclosed, enclose, List.length_append]
      omega

/-- Enclosing a tag makes the text longer, and nothing makes it shorter. -/
theorem assemble_eq_source_iff {n : Nat} {ps : List (Piece TagKind)} {ds : List Bool}
    (hl : (spansFrom n ps).length = ds.length) :
    assemble ps ds = ps.flatMap Piece.source ↔ ∀ d ∈ ds, d = false := by
  induction ps generalizing n ds with
  | nil =>
    have hd : ds = [] := List.eq_nil_of_length_eq_zero hl.symm
    simp [hd, assemble]
  | cons p ps ih =>
    cases p with
    | plain c =>
      have hi := ih (n := n + 1) hl
      simpa [assemble, Piece.source] using hi
    | found s k =>
      cases ds with
      | nil => simp at hl
      | cons d ds =>
        have hi := @ih (n + s.length) ds (by simpa using hl)
        cases d with
        | false => simpa [assemble, Piece.source] using hi
        | true =>
          have hle := length_source_le ps ds
          refine iff_of_false ?_ (by simp)
          intro he
          have hn := congrArg List.length he
          simp only [assemble, enclose, List.flatMap_cons, Piece.source, List.length_append,
            List.length_cons, List.length_nil] at hn
          omega

theorem length_decisions_findTags (t : Text) : (findTags t).length = (decisions t).length := by
  rw [length_decisions, length_tagContexts]

/-- Every tag that stands in code is near a wrapped tag. -/
def AtRest (t : Text) : Prop :=
  ∀ p ∈ (findTags t).zip (tagContexts t), p.2.isCode = true →
    nearAny (wrappedStarts t) p.1.start = true

/-- A tag is to be enclosed when it stands in code and not near a wrapped tag. -/
theorem decisions_eq (t : Text) : decisions t = ((findTags t).zip (tagContexts t)).map fun p =>
    p.2.isCode && !nearAny (wrappedStarts t) p.1.start := rfl

theorem wrap_eq_self_iff (t : Text) : wrap t = t ↔ AtRest t := by
  have hs := Pattern.sources_cut Tag.pattern t
  have hi := assemble_eq_source_iff (n := 0) (length_decisions_findTags t)
  rw [hs] at hi
  rw [wrap, hi, decisions_eq, List.forall_mem_map]
  apply forall₂_congr
  intro p hp
  cases p.2.isCode <;> simp

theorem isCode_contextAfter (c : Context) (d : Bool) :
    (contextAfter c d).isCode = true ↔ c.isCode = true ∧ d = false := by
  cases d <;> simp [contextAfter, Context.isCode]

/-- Every tag in code position that wrapping leaves alone for a wrapped tag nearby is still near one
when the others have been enclosed. -/
def StillNear (t : Text) : Prop :=
  ∀ p ∈ (findTags (wrap t)).zip ((tagContexts t).zip (decisions t)),
    p.2.1.isCode = true → p.2.2 = false → nearAny (wrappedStarts (wrap t)) p.1.start = true

theorem atRest_wrap_iff {t : Text}
    (h : ∀ p ∈ (findTags t).zip (decisions t), p.2 = true → FitsComment t p.1) :
    AtRest (wrap t) ↔ StillNear t := by
  have hz : (findTags (wrap t)).zip (tagContexts (wrap t)) =
      ((findTags (wrap t)).zip ((tagContexts t).zip (decisions t))).map
        fun p => (p.1, contextAfter p.2.1 p.2.2) := by
    rw [tagContexts_wrap h, ← List.map_uncurry_zip_eq_zipWith, List.zip_map_right]
    rfl
  rw [AtRest, hz, List.forall_mem_map]
  apply forall₂_congr
  intro p hp
  rw [isCode_contextAfter, and_imp]

/-- Wrapping a second time changes nothing exactly when every tag that has come to stand in code is
near a wrapped tag. Where a comment fits around every enclosed tag, this says that the tags left
alone for their neighbours keep some. -/
theorem wrap_wrap_iff (t : Text) :
    (wrap (wrap t) = wrap t ↔ AtRest (wrap t)) ∧
    ((∀ p ∈ (findTags t).zip (decisions t), p.2 = true → FitsComment t p.1) →
      (wrap (wrap t) = wrap t ↔ StillNear t)) := by
  have hr := wrap_eq_self_iff (wrap t)
  exact ⟨hr, fun h => hr.trans (atRest_wrap_iff h)⟩

/-- A quotient by a tag, and a tag in a literal that runs over the end of the line: the slash and the
inserted delimiter open a line comment, which hides the backtick from the second pass. -/
theorem exists_wrap_wrap_ne : ¬ ∀ t, wrap (wrap t) = wrap t := by
  intro h
  have ht := h "x = 1 /\x7b\x7b n \x7d\x7d + \x60\n\x7b\x7b b \x7d\x7d\x60".toList
  exact absurd ht (by decide +kernel)

/-- A tag that is left alone because a comment that a line comment hides seems to wrap it. -/
theorem wrap_wrap_neighbour :
    let t := "//*\n\x7b\x7b a \x7d\x7d \x7b\x7b b \x7d\x7d*/".toList
    (∀ p ∈ (findTags t).zip (decisions t), p.2 = true → FitsComment t p.1) ∧
    decisions t = [false, true] ∧ tagContexts t = [.plain, .plain] ∧ wrap (wrap t) = wrap t := by
  intro t
  have hf : ∀ p ∈ (findTags t).zip (decisions t), p.2 = true → FitsComment t p.1 := by
    decide +kernel
  have hn : StillNear t := by
    rw [StillNear]
    decide +kernel
  exact ⟨hf, by decide +kernel, by decide +kernel, ((wrap_wrap_iff t).2 hf).mpr hn⟩

/-- Here a comment that starts with a tag comes to end behind the neighbour. -/
example : let t := "/* \x7b# #\x7d x */ \x7b\x7b/*\x7b% \x7d\x7d %\x7d*/ \x7b# y #\x7d".toList
    wrap (wrap t) ≠ wrap t := by decide +kernel

theorem findWrapped_eq_nil {t : Text} (h : hasWrapped t = false) : findWrapped t = [] := by
  rw [findWrapped, List.map_eq_nil_iff, List.eq_nil_iff_forall_not_mem]
  rintro ⟨n, s, i⟩ hm
  have hw : hasWrapped t = true :=
    Pattern.matchesIn_of_mem_cut Wrapped.pattern_proper (Piece.found_of_mem_located hm)
  rw [h] at hw
  exact Bool.noConfusion hw

/-- Without wrapped tags the contexts alone decide. -/
theorem decisions_of_not_hasWrapped {t : Text} (h : hasWrapped t = false) :
    decisions t = (tagContexts t).map Context.isCode := by
  have hs : wrappedStarts t = [] := by rw [wrappedStarts, findWrapped_eq_nil h, List.map_nil]
  have hl : (tagContexts t).length ≤ (findTags t).length := Nat.le_of_eq (length_tagContexts t)
  simp only [decisions_eq, hs, nearAny, List.any_nil, Bool.not_false, Bool.and_true]
  rw [← List.map_snd_zip hl, List.map_map, List.map_snd_zip hl]
  rfl

/-- A text without wrapped tags, every tag of which in code position fits into a comment, is wrapped
once and for all. -/
theorem wrap_wrap_of_not_hasWrapped {t : Text} (hw : hasWrapped t = false)
    (h : ∀ p ∈ (findTags t).zip (decisions t), p.2 = true → FitsComment t p.1) :
    wrap (wrap t) = wrap t := by
  rw [wrap_eq_self_iff, atRest_wrap_iff h]
  intro p hp hc hd
  have hm : p.2 ∈ (tagContexts t).zip (decisions t) := (List.of_mem_zip hp).2
  rw [decisions_of_not_hasWrapped hw] at hm
  obtain ⟨i, hi, he⟩ := List.mem_iff_getElem.mp hm
  rw [← he] at hc hd
  simp only [List.getElem_zip, List.getElem_map] at hc hd
  rw [hc] at hd
  exact Bool.noConfusion hd

end TemplateGuard.Wrapping
