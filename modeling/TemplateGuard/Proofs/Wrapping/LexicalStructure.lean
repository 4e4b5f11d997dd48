import TemplateGuard.Proofs.Lexical.BlockComment
import TemplateGuard.Proofs.Lexical.Walk
import TemplateGuard.Proofs.Wrapping.TagSequence

namespace TemplateGuard.Wrapping

/-- A comment can stand around the tag: the tag does not end it, and no slash before it makes a line
comment of its opener. -/
def FitsComment (t : Text) (s : TagSpan) : Prop :=
  ¬ ['*', '/'] <:+: s.text ∧ ¬ ['/'] <:+ t.take s.start

instance (t : Text) (s : TagSpan) : Decidable (FitsComment t s) :=
  inferInstanceAs (Decidable (¬ ['*', '/'] <:+: s.text ∧ ¬ ['/'] <:+ t.take s.start))

/-- The context of a tag after wrapping, by its context before and whether it is enclosed. -/
def contextAfter (c : Context) (enclosed : Bool) : Context := if enclosed then .comment else c

theorem contextAfter_false (c : Context) : contextAfter c false = c := rfl

theorem ne_comment_of_isCode {c : Context} (h : c.isCode = true) : c ≠ .comment := by
  rintro rfl
  simp [Context.isCode] at h

/-- The end of a comment and what follows it are walked as if the comment were not there. -/
theorem walk_close {s : LexState} (h : s.context.isCode = true) (g : Text)
    (ps : List (Piece TagKind)) :
    walk s.inBlock (' ' :: '*' :: '/' :: g) ps = walk s g ps := by
  induction ps generalizing g with
  | nil =>
    simp only [walk]
    exact congrArg _ (LexState.read_close h g.length g)
  | cons p ps ih =>
    cases p with
    | plain c => exact ih (g ++ [c])
    | found x k =>
      have hr := LexState.read_close h g.length (g ++ x)
      simp only [walk]
      rw [← hr]
      rfl

/-- A tag in code position and the comment that encloses it. -/
theorem walk_enclosed {s : LexState} {g x : Text} {k : TagKind} (hx : Tag.IsTag k x)
    (hs : (s.read g.length (g ++ x)).1.context.isCode = true) (hg : ¬ ['/'] <:+ g)
    (hb : ¬ ['*', '/'] <:+: x) (ps : List (Piece TagKind)) :
    walk s g (.plain '/' :: .plain '*' :: .plain ' ' :: .found x k ::
        .plain ' ' :: .plain '*' :: .plain '/' :: ps) =
      (.comment :: (walk (s.read g.length (g ++ x)).1 [] ps).1,
        (walk (s.read g.length (g ++ x)).1 [] ps).2) := by
  have hr : (s.read (g ++ ['/'] ++ ['*'] ++ [' ']).length (g ++ ['/'] ++ ['*'] ++ [' '] ++ x)).1 =
      (s.read g.length (g ++ x)).1.inBlock := by
    obtain ⟨y, rfl⟩ := hx.exists_cons
    have ho := LexState.read_open hg hs ('{' :: y)
    simpa using ho
  have ha : (s.read g.length (g ++ x)).1.inBlock.afterTag x =
      (s.read g.length (g ++ x)).1.inBlock := by
    rw [LexState.afterTag, if_pos (LexState.context_inBlock _), LexState.read_body _ hb]
  have hc := walk_close hs [] ps
  simp only [walk, hr, ha, LexState.context_inBlock, List.nil_append, List.cons_append] at hc ⊢
  rw [hc]

/-- Wherever the tags that are enclosed stand in code and fit into a comment, the walk over the
pieces with the comments around them gives these the comment context and all else as before. -/
theorem walk_encloseAll {t : Text} {ps : List (Piece TagKind)}
    (hps : ∀ x k, .found x k ∈ ps → Tag.IsTag k x) (s : LexState) {u g : Text}
    (ht : t = u ++ ps.flatMap Piece.source) (hg : g <:+ u) {ds : List Bool}
    (hl : (walk s g ps).1.length = ds.length)
    (hc : ∀ p ∈ (walk s g ps).1.zip ds, p.2 = true → p.1.isCode = true)
    (hf : ∀ p ∈ (spansFrom u.length ps).zip ds, p.2 = true → FitsComment t p.1) :
    walk s g (encloseAll ps ds) =
      (List.zipWith contextAfter (walk s g ps).1 ds, (walk s g ps).2) := by
  induction ps generalizing s u g ds with
  | nil => simp [encloseAll, walk]
  | cons p ps ih =>
    have hps' : ∀ x k, .found x k ∈ ps → Tag.IsTag k x := fun x k h =>
      hps x k (List.mem_cons_of_mem p h)
    cases p with
    | plain c =>
      have ht' : t = (u ++ [c]) ++ ps.flatMap Piece.source := by simpa [Piece.source] using ht
      have hg' : g ++ [c] <:+ u ++ [c] := by
        obtain ⟨v, rfl⟩ := hg
        exact ⟨v, by simp⟩
      exact ih hps' s ht' hg' hl hc (by simpa using hf)
    | found x k =>
      have hx := hps x k List.mem_cons_self
      have ht' : t = (u ++ x) ++ ps.flatMap Piece.source := by simpa [Piece.source] using ht
      cases ds with
      | nil => simp [walk] at hl
      | cons d ds =>
        have hi := ih hps' ((s.read g.length (g ++ x)).1.afterTag x) ht' (g := []) (List.nil_suffix)
          (by simpa [walk] using hl) (fun p hp => hc p (List.mem_cons_of_mem _ hp))
          (fun p hp => hf p (by simpa using List.mem_cons_of_mem _ hp))
        cases d with
        | false =>
          simp only [encloseAll, walk, List.tail_cons, hi, List.zipWith_cons_cons,
            contextAfter_false]
        | true =>
          -- The stretch since the last tag is empty or ends where the text before the tag does.
          have hs : (s.read g.length (g ++ x)).1.context.isCode = true :=
            hc _ List.mem_cons_self rfl
          obtain ⟨hb, hn⟩ := hf _ List.mem_cons_self rfl
          have hu : t.take u.length = u := by rw [ht, List.take_left]
          have hg' : ¬ ['/'] <:+ g := fun h => hn (by simpa [hu] using h.trans hg)
          have ha : (s.read g.length (g ++ x)).1.afterTag x = (s.read g.length (g ++ x)).1 :=
            if_neg (ne_comment_of_isCode hs)
          rw [ha] at hi
          rw [encloseAll, walk_enclosed hx hs hg' hb, hi]
          simp only [walk, ha, List.zipWith_cons_cons]
          rfl

theorem length_decisions (t : Text) : (decisions t).length = (tagContexts t).length := by
  simp [decisions, length_tagContexts]

theorem isCode_of_decisions {t : Text} {p : Context × Bool}
    (hp : p ∈ (tagContexts t).zip (decisions t)) (hd : p.2 = true) : p.1.isCode = true := by
  obtain ⟨i, hi, rfl⟩ := List.mem_iff_getElem.mp hp
  simp only [decisions, List.getElem_zip, List.getElem_map, Bool.and_eq_true] at hd ⊢
  exact hd.1

/-- The walk over the wrapped text, where a comment fits around every tag that is enclosed. -/
theorem walk_cut_wrap {t : Text}
    (h : ∀ p ∈ (findTags t).zip (decisions t), p.2 = true → FitsComment t p.1) :
    walk {} [] (Tag.pattern.cut (wrap t)) =
      (List.zipWith contextAfter (tagContexts t) (decisions t), lexEnd t) := by
  have hl := (length_decisions t).symm
  have hc : ∀ p ∈ (tagContexts t).zip (decisions t), p.2 = true → p.1.isCode = true :=
    fun _ hp => isCode_of_decisions hp
  rw [tagContexts_eq_walk t] at hl hc ⊢
  rw [cut_wrap, lexEnd_eq_walk]
  exact walk_encloseAll (fun _ _ h => Tag.isTag_of_mem_cut t h) {} (u := []) (g := [])
    (Pattern.sources_cut Tag.pattern t).symm List.nil_suffix hl hc h

/-- The enclosed tags come to stand in comments and the others keep their contexts. -/
theorem tagContexts_wrap {t : Text}
    (h : ∀ p ∈ (findTags t).zip (decisions t), p.2 = true → FitsComment t p.1) :
    tagContexts (wrap t) = List.zipWith contextAfter (tagContexts t) (decisions t) := by
  rw [tagContexts_eq_walk, walk_cut_wrap h]

/-- Wrapping preserves the lexical structure: enclosed tags become comments, the other tags keep
their contexts, and the text ends in the same state. -/
theorem wrap_preserves_structure (t : Text)
    (h : ∀ p ∈ (findTags t).zip (decisions t), p.2 = true → FitsComment t p.1) :
    tagContexts (wrap t) = List.zipWith contextAfter (tagContexts t) (decisions t) ∧
    lexEnd (wrap t) = lexEnd t := by
  have he : lexEnd (wrap t) = lexEnd t := by rw [lexEnd_eq_walk (wrap t), walk_cut_wrap h]
  exact ⟨tagContexts_wrap h, he⟩

/-- Neighbours without a gap, nested template literals, a comment and a string with a tag in each, a
star before a tag and a line comment at the end. -/
theorem wrap_preserves_structure_nested :
    let t := ("\x7b\x7b a \x7d\x7d\x7b% b %\x7d\x60x$\x7b \x7b\x7b c \x7d\x7d + \x60" ++
      "\x7b\x7b d \x7d\x7d$\x7b \x7b# e #\x7d \x7d\x60 \x7d\x60 /* \x7b\x7b f \x7d\x7d */ " ++
      "'\x7b\x7b g \x7d\x7d' *\x7b\x7b h \x7d\x7d // \x7b\x7b i \x7d\x7d").toList
    (∀ p ∈ (findTags t).zip (decisions t), p.2 = true → FitsComment t p.1) ∧
    decisions t = [true, true, true, false, true, false, false, true, false] ∧
    tagContexts (wrap t) = List.zipWith contextAfter (tagContexts t) (decisions t) ∧
    lexEnd (wrap t) = lexEnd t := by
  intro t
  have h : ∀ p ∈ (findTags t).zip (decisions t), p.2 = true → FitsComment t p.1 := by
    decide +kernel
  exact ⟨h, by decide +kernel, wrap_preserves_structure t h⟩

end TemplateGuard.Wrapping
