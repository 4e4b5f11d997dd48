import TemplateGuard.Proofs.Gaps
import TemplateGuard.Proofs.Lexical.Walk
import TemplateGuard.Proofs.Tag.Search

namespace TemplateGuard

/-- Classifies spans one after the other; the first refusal ends it. -/
def Scanner.classifySpans : Scanner → List TagSpan → Except OutOfRange (List Context)
  | _, [] => .ok []
  | s, span :: spans =>
    match s.classifySpan span.start span.stop with
    | (.error e, _) => .error e
    | (.ok c, next) => (classifySpans next spans).map (c :: ·)

theorem Scanner.classifySpans_eq {s : Scanner} {spans : List TagSpan}
    (h : ∀ x ∈ spans, x.start ≤ s.text.length ∧ x.stop ≤ s.text.length) :
    s.classifySpans spans = .ok (s.passAll spans).1 := by
  induction spans generalizing s with
  | nil => rfl
  | cons x spans ih =>
    obtain ⟨hstart, hstop⟩ := h x List.mem_cons_self
    have hi := ih (s := (s.pass x.start x.stop).2) (by
      intro y hy
      rw [text_pass]
      exact h y (List.mem_cons_of_mem x hy))
    simp only [classifySpans, s.classifySpan_eq_pass x.start x.stop hstart hstop, hi, passAll]
    rfl

/-- No tag of a text is refused. -/
theorem classifySpans_findTags (t : Text) :
    (Scanner.ofText t).classifySpans (findTags t) = .ok (tagContexts t) := by
  refine Scanner.classifySpans_eq fun s hs => ?_
  obtain ⟨hlt, hle⟩ := bounds_of_mem_findTags hs
  exact ⟨Nat.le_of_lt (Nat.lt_of_lt_of_le hlt hle), hle⟩

/-- The gaps of a text between its tags. -/
def tagGaps (t : Text) : List Text := t.gaps ((findTags t).map fun s => (s.start, s.stop))

/-- The gaps and the tags make up the text. -/
theorem weave_tagGaps (t : Text) : Text.weave (tagGaps t) ((findTags t).map TagSpan.text) = t := by
  have h := Tag.pattern.weave_gaps t
  simp only [tagGaps, findTags, List.map_map]
  exact h

theorem length_tagGaps (t : Text) : (tagGaps t).length = (findTags t).length + 1 := by
  rw [tagGaps, Text.gaps, Text.length_gapsFrom, List.length_map]

/-- The contexts of tags, where each gap is read up to the tag behind it. -/
def contextsBetween : LexState → List Text → List Text → List Context
  | s, gap :: gaps, x :: xs =>
    let here := (s.read gap.length (gap ++ x)).1
    here.context :: contextsBetween (here.afterTag x) gaps xs
  | _, _, _ => []

theorem walk_eq_between (s : LexState) (n : Nat) (g : Text) (ps : List (Piece TagKind)) :
    (walk s g ps).1 =
      contextsBetween s (Piece.gaps g ps) ((Piece.located n ps).map fun m => m.2.1) := by
  induction ps generalizing s n g with
  | nil => rfl
  | cons p ps ih =>
    cases p with
    | plain c => exact ih s (n + 1) (g ++ [c])
    | found x k => exact congrArg _ (ih _ (n + x.length) [])

/-- The contexts of the tags are told by the gaps and the tags alone. -/
theorem tagContexts_eq_between (t : Text) :
    tagContexts t = contextsBetween {} (tagGaps t) ((findTags t).map TagSpan.text) := by
  have hg := Tag.pattern.gaps_locate t
  rw [tagContexts_eq_walk, walk_eq_between {} 0 [], ← hg]
  simp only [tagGaps, findTags, List.map_map]
  rfl

theorem LexState.afterTag_congr {s : LexState} {x y : Text} (h : s.context = .comment → y = x) :
    s.afterTag y = s.afterTag x := by
  by_cases hc : s.context = .comment
  · rw [h hc]
  · simp only [afterTag, if_neg hc]

/-- Walking the same gaps with other tags leads through the same contexts, if the tags that stand in
comments are the same. -/
theorem contextsBetween_congr {s : LexState} {gs xs ys : List Text} (hl : xs.length = ys.length)
    (hx : ∀ x ∈ xs, x.head? = some '{') (hy : ∀ y ∈ ys, y.head? = some '{')
    (hc : ∀ p ∈ (contextsBetween s gs xs).zip (xs.zip ys), p.1 = .comment → p.2.2 = p.2.1) :
    contextsBetween s gs ys = contextsBetween s gs xs := by
  induction gs generalizing s xs ys with
  | nil => rfl
  | cons g gs ih =>
    cases xs with
    | nil => rw [List.eq_nil_of_length_eq_zero hl.symm]
    | cons x xs =>
      cases ys with
      | nil => simp at hl
      | cons y ys =>
        -- The gap is read alike, since both tags start with a brace.
        have hhead : y.head? = x.head? :=
          (hy y List.mem_cons_self).trans (hx x List.mem_cons_self).symm
        have hr : s.read g.length (g ++ y) = s.read g.length (g ++ x) := s.read_congr g hhead
        have hafter : (s.read g.length (g ++ x)).1.afterTag y =
            (s.read g.length (g ++ x)).1.afterTag x :=
          LexState.afterTag_congr (hc _ List.mem_cons_self)
        have hi := ih (s := (s.read g.length (g ++ x)).1.afterTag x) (Nat.succ.inj hl)
          (fun x' hm => hx x' (List.mem_cons_of_mem x hm))
          (fun y' hm => hy y' (List.mem_cons_of_mem y hm))
          (fun p hm => hc p (List.mem_cons_of_mem _ hm))
        simp only [contextsBetween, hr, hafter, hi]

theorem head?_of_mem_findTags {t x : Text} (h : x ∈ (findTags t).map TagSpan.text) :
    x.head? = some '{' := by
  obtain ⟨s, hs, rfl⟩ := List.mem_map.mp h
  obtain ⟨⟨i, x, k⟩, hm, rfl⟩ := List.mem_map.mp hs
  obtain ⟨y, hy⟩ := (Tag.isTag_of_mem_cut t (Piece.found_of_mem_located hm)).exists_cons
  exact congrArg List.head? hy

/-- Two texts with the same gaps have as many tags. -/
theorem length_findTags_of_gaps {t t' : Text} (h : tagGaps t' = tagGaps t) :
    (findTags t).length = (findTags t').length := by
  have hl := congrArg List.length h
  rw [length_tagGaps, length_tagGaps] at hl
  omega

/-- Where the tags between the same gaps differ outside comments only, the contexts are the same. -/
theorem tagContexts_eq_of_gaps {t t' : Text} (hg : tagGaps t' = tagGaps t)
    (hc : ∀ p ∈ (tagContexts t).zip ((findTags t).zip (findTags t')),
      p.1 = .comment → p.2.2.text = p.2.1.text) : tagContexts t' = tagContexts t := by
  rw [tagContexts_eq_between t] at hc
  rw [tagContexts_eq_between t, tagContexts_eq_between t', hg]
  refine contextsBetween_congr (by simpa using length_findTags_of_gaps hg)
    (fun _ hx => head?_of_mem_findTags hx) (fun _ hy => head?_of_mem_findTags hy) ?_
  rw [List.zip_map, List.zip_map_right]
  exact List.forall_mem_map.mpr hc

/-- The places, in the order of the tags, of those that are protected. -/
def stringIndices (t : Text) : List Nat := (tagsInStrings t).map fun s => (findTags t).idxOf s

theorem map_idxOf_filter_zip {α β : Type} [BEq α] [LawfulBEq α] {l : List α} (hl : l.Nodup)
    (cs : List β) (q : β → Bool) :
    (((l.zip cs).filter fun p => q p.2).map Prod.fst).map l.idxOf =
      (((List.range l.length).zip cs).filter fun p => q p.2).map Prod.fst := by
  have hr : l.map l.idxOf = List.range l.length := by
    apply List.ext_getElem
    · simp
    · intro i h1 h2
      simp [hl.idxOf_getElem]
  rw [← hr, List.zip_map_left, List.filter_map, List.map_map, List.map_map]
  rfl

/-- Which tags are in strings is told by the contexts. -/
theorem stringIndices_eq (t : Text) : stringIndices t =
    (((List.range (tagContexts t).length).zip (tagContexts t)).filter fun p =>
      p.2.isProtected).map Prod.fst := by
  rw [length_tagContexts]
  exact map_idxOf_filter_zip (nodup_findTags t) (tagContexts t) Context.isProtected

/-- What tags hold does not matter to their classification. In two texts with the same gaps between
their tags, where tags that stand in comments are the same, every tag is classified and has the
context of its counterpart, so the same tags are found in strings. -/
theorem contexts_opaque (t t' : Text) (hg : tagGaps t' = tagGaps t)
    (hc : ∀ p ∈ (tagContexts t).zip ((findTags t).zip (findTags t')),
      p.1 = .comment → p.2.2.text = p.2.1.text) :
    (Scanner.ofText t).classifySpans (findTags t) = .ok (tagContexts t) ∧
    (Scanner.ofText t').classifySpans (findTags t') = .ok (tagContexts t) ∧
    stringIndices t' = stringIndices t := by
  have hcontexts := tagContexts_eq_of_gaps hg hc
  refine ⟨classifySpans_findTags t, ?_, ?_⟩
  · rw [← hcontexts]
    exact classifySpans_findTags t'
  · rw [stringIndices_eq, stringIndices_eq, hcontexts]

/-- An escape and the start of a substitution that run into a tag, a substitution, a tag that ends
the comment it stands in, and other tags that hold quotes, backticks, braces and comment marks. -/
theorem contexts_opaque_straddling :
    let t := ("'\\\x7b\x7b a \x7d\x7d' \x60$\x7b\x7b b \x7d\x7d$\x7b \x7b% c %\x7d \x7d\x60 " ++
      "\x7b\x7b ' \x7d\x7d /* \x7b\x7b d */ \x7d\x7d \x7b# \x60 #\x7d").toList
    let t' := ("'\\\x7b# '\\ #\x7d' \x60$\x7b% \x60 */ %\x7d$\x7b \x7b\x7b \x7d ' \x7d\x7d " ++
      "\x7d\x60 \x7b% // \x60 %\x7d /* \x7b\x7b d */ \x7d\x7d \x7b\x7b\x7d\x7d").toList
    tagGaps t' = tagGaps t ∧
    (∀ p ∈ (tagContexts t).zip ((findTags t).zip (findTags t')),
      p.1 = .comment → p.2.2.text = p.2.1.text) ∧
    tagContexts t = [.string, .templateText, .templateExpr, .plain, .comment, .plain] ∧
    (Scanner.ofText t).classifySpans (findTags t) = .ok (tagContexts t) ∧
    (Scanner.ofText t').classifySpans (findTags t') = .ok (tagContexts t) ∧
    stringIndices t' = stringIndices t := by
  intro t t'
  have hg : tagGaps t' = tagGaps t := by decide +kernel
  have hc : ∀ p ∈ (tagContexts t).zip ((findTags t).zip (findTags t')),
      p.1 = .comment → p.2.2.text = p.2.1.text := by decide +kernel
  exact ⟨hg, hc, by decide +kernel, contexts_opaque t t' hg hc⟩

end TemplateGuard
