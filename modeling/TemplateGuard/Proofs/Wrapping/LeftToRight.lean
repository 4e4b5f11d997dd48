import TemplateGuard.Proofs.Tag.Search
import TemplateGuard.Proofs.Wrapping.Idempotence
import TemplateGuard.Proofs.Wrapping.RoundTrip

namespace TemplateGuard

namespace Tag

/-- Where the pattern takes nothing, it takes nothing if the text ends earlier. -/
theorem pattern_eq_none_of_append {u v : Text} (hn : pattern (u ++ v) = none) :
    pattern u = none := by
  cases hu : pattern u with
  | none => rfl
  | some m =>
    obtain ⟨s, rest, rfl, -, hs⟩ := exists_isTag hu
    rw [List.append_assoc, pattern_append hs] at hn
    exact absurd hn (by simp)

/-- A text that ends between two pieces of another one is cut as the other one is up to there. -/
theorem cut_sources {t : Text} {ps qs : List (Piece TagKind)} (h : pattern.cut t = ps ++ qs) :
    pattern.cut (ps.flatMap Piece.source) = ps := by
  induction t using Pattern.cut_induction pattern_proper generalizing ps with
  | nil =>
    obtain ⟨rfl, -⟩ := List.append_eq_nil_iff.mp h.symm
    rfl
  | plain c t hn ih =>
    rw [Pattern.cut_cons_of_none _ hn] at h
    cases ps with
    | nil => rfl
    | cons p ps =>
      obtain rfl : .plain c = p := (List.cons.inj h).1
      have hps : pattern.cut t = ps ++ qs := (List.cons.inj h).2
      -- A shorter text has fewer closers, so an opener left open stays open.
      have ht : c :: t = (c :: ps.flatMap Piece.source) ++ qs.flatMap Piece.source := by
        rw [← Pattern.sources_cut pattern t, hps, List.flatMap_append]
        rfl
      have hp : pattern (c :: ps.flatMap Piece.source) = none := by
        rw [ht] at hn
        exact pattern_eq_none_of_append hn
      have hcut := Pattern.cut_cons_of_none _ hp
      rw [ih hps] at hcut
      exact hcut
  | found a b v ha hv ih =>
    have hs : IsTag v a := isTag_of_pattern hv
    rw [Pattern.cut_found _ ha hv] at h
    cases ps with
    | nil => rfl
    | cons p ps =>
      obtain rfl : .found a v = p := (List.cons.inj h).1
      have hps : pattern.cut b = ps ++ qs := (List.cons.inj h).2
      have hcut := Pattern.cut_found _ ha (pattern_append hs (ps.flatMap Piece.source))
      rw [ih hps] at hcut
      exact hcut

/-- A tag of a text cuts its pieces in two, and those before it are the pieces of the text before
it. -/
theorem exists_cut {t : Text} {i : Nat} {s : TagSpan} (h : (findTags t)[i]? = some s) :
    ∃ qs, pattern.cut t = pattern.cut (t.take s.start) ++ .found s.text s.kind :: qs ∧
      (findTags (t.take s.start)).length = i := by
  rw [findTags, List.getElem?_map] at h
  obtain ⟨m, hm, rfl⟩ := Option.map_eq_some_iff.mp h
  obtain ⟨ps, qs, hps, hstart, hlen⟩ := Piece.exists_of_getElem?_located hm
  have htake : t.take m.1 = ps.flatMap Piece.source := by
    rw [← Pattern.sources_cut pattern t, hps, List.flatMap_append, hstart, Nat.zero_add,
      List.take_left]
  have hcut : pattern.cut (t.take m.1) = ps := by
    rw [htake]
    exact cut_sources hps
  refine ⟨qs, by rw [hcut]; exact hps, ?_⟩
  rw [findTags, List.length_map, Pattern.locate, hcut, hlen]

end Tag

/-- What is read before a stretch of pieces does not depend on what follows it. -/
theorem exists_walk_append (s : LexState) (g : Text) (ps qs : List (Piece TagKind)) :
    ∃ cs, (walk s g (ps ++ qs)).1 = (walk s g ps).1 ++ cs := by
  induction ps generalizing s g with
  | nil => exact ⟨_, rfl⟩
  | cons p ps ih =>
    cases p with
    | plain c => exact ih s (g ++ [c])
    | found x k =>
      obtain ⟨cs, hcs⟩ := ih ((s.read g.length (g ++ x)).1.afterTag x) []
      exact ⟨cs, congrArg _ hcs⟩

/-- The tags before a tag have their contexts also in the text that ends in front of it. -/
theorem exists_tagContexts {t : Text} {i : Nat} {s : TagSpan} (h : (findTags t)[i]? = some s) :
    ∃ c cs, tagContexts t = tagContexts (t.take s.start) ++ c :: cs ∧
      (tagContexts t)[i]? = some c := by
  obtain ⟨qs, hcut, hlen⟩ := Tag.exists_cut h
  obtain ⟨cs, hcs⟩ := exists_walk_append {} [] (Tag.pattern.cut (t.take s.start))
    (.found s.text s.kind :: qs)
  rw [← hcut, ← tagContexts_eq_walk, ← tagContexts_eq_walk] at hcs
  have hi : i < (tagContexts t).length := by
    rw [length_tagContexts]
    exact (List.getElem?_eq_some_iff.mp h).1
  have hl : (tagContexts (t.take s.start)).length = i := by rw [length_tagContexts, hlen]
  cases cs with
  | nil =>
    -- There is a context for the tag at the cut.
    rw [hcs, List.append_nil] at hi
    omega
  | cons c cs =>
    refine ⟨c, cs, hcs, ?_⟩
    rw [hcs, List.getElem?_append_right (Nat.le_of_eq hl), hl, Nat.sub_self]
    rfl

theorem hasWrapped_of_append_left {a b : Text} (h : hasWrapped (a ++ b) = false) :
    hasWrapped a = false := by
  rw [← Bool.not_eq_true] at h ⊢
  intro ha
  obtain ⟨x, y, rfl, -, hp⟩ := (Pattern.matchesIn_iff _ _).mp ha
  obtain ⟨m, hm⟩ := Option.isSome_iff_exists.mp hp
  obtain ⟨ws, k, body, tail, rest, hws, htail, rfl, -⟩ := Wrapped.exists_of_pattern hm
  have hh := hasWrapped_of_shape x hws htail k body (rest ++ b)
  exact h (by simpa using hh)

namespace Wrapping

theorem assemble_append {n : Nat} {ps : List (Piece TagKind)} {ds : List Bool}
    (hl : (spansFrom n ps).length = ds.length) (qs : List (Piece TagKind)) (es : List Bool) :
    assemble (ps ++ qs) (ds ++ es) = assemble ps ds ++ assemble qs es := by
  induction ps generalizing n ds with
  | nil =>
    have hd : ds = [] := List.eq_nil_of_length_eq_zero hl.symm
    simp [hd, assemble]
  | cons p ps ih =>
    cases p with
    | plain c =>
      have hi := ih (n := n + 1) hl
      simp [assemble, hi]
    | found x k =>
      cases ds with
      | nil => simp at hl
      | cons d ds =>
        have hi := @ih (n + x.length) ds (by simpa using hl)
        cases d with
        | false => simp [assemble, hi]
        | true => simp [assemble, hi]

/-- A tag as wrapping writes it, by its context. -/
def written (tag : Text) : Context → Text
  | .string | .templateText | .comment => tag
  | .plain | .templateExpr => enclose tag

/-- Wrapping writes the text before a tag as if nothing followed, and then the tag. -/
theorem exists_wrap_eq {t : Text} (hw : hasWrapped t = false) {i : Nat} {s : TagSpan}
    (h : (findTags t)[i]? = some s) :
    ∃ c, (tagContexts t)[i]? = some c ∧
      wrap (t.take s.start) ++ written s.text c <+: wrap t := by
  obtain ⟨qs, hcut, -⟩ := Tag.exists_cut h
  obtain ⟨c, cs, hcs, hc⟩ := exists_tagContexts h
  have hu : hasWrapped (t.take s.start) = false := by
    rw [← List.take_append_drop s.start t] at hw
    exact hasWrapped_of_append_left hw
  have hds : decisions t =
      decisions (t.take s.start) ++ (c.isCode :: cs.map Context.isCode) := by
    rw [decisions_of_not_hasWrapped hw, decisions_of_not_hasWrapped hu, hcs, List.map_append,
      List.map_cons]
  have hl := length_decisions_findTags (t.take s.start)
  refine ⟨c, hc, assemble qs (cs.map Context.isCode), ?_⟩
  have hwrap : wrap t = wrap (t.take s.start) ++
      assemble (.found s.text s.kind :: qs) (c.isCode :: cs.map Context.isCode) := by
    rw [wrap, hcut, hds]
    exact assemble_append (n := 0) hl _ _
  rw [hwrap, List.append_assoc]
  cases c <;> rfl

end Wrapping

theorem exists_of_mem_tagsInStrings {t : Text} {s : TagSpan} (h : s ∈ tagsInStrings t) :
    ∃ (i : Nat) (c : Context), (findTags t)[i]? = some s ∧ (tagContexts t)[i]? = some c ∧
      c.isProtected = true := by
  obtain ⟨p, hp, rfl⟩ := List.mem_map.mp h
  obtain ⟨hm, hc⟩ := List.mem_filter.mp hp
  obtain ⟨i, hi⟩ := List.mem_iff_getElem?.mp hm
  obtain ⟨h1, h2⟩ := List.getElem?_zip_eq_some.mp hi
  exact ⟨i, p.2, h1, h2, hc⟩

theorem Wrapping.written_of_isProtected {c : Context} (h : c.isProtected = true) (tag : Text) :
    written tag c = tag := by
  cases c with
  | string => rfl
  | templateText => rfl
  | _ => exact absurd h (by decide)

/-- A text without comment openers in front of tag openers is wrapped from left to right: what
stands in front of a tag is what wrapping makes of the text before it, and the tag follows as its
context has it, so that tags in strings are left alone. -/
theorem wrap_left_to_right (t : Text) (h : ¬ HasTagComment t) :
    (∀ (i : Nat) (s : TagSpan), (findTags t)[i]? = some s → ∃ c, (tagContexts t)[i]? = some c ∧
      wrap (t.take s.start) ++ Wrapping.written s.text c <+: wrap t) ∧
    ∀ s ∈ tagsInStrings t, wrap (t.take s.start) ++ s.text <+: wrap t := by
  have hw : hasWrapped t = false := not_hasWrapped_of_not_hasTagComment h
  refine ⟨fun i s hs => Wrapping.exists_wrap_eq hw hs, ?_⟩
  intro s hs
  obtain ⟨i, c, hi, hc, hp⟩ := exists_of_mem_tagsInStrings hs
  obtain ⟨c', hc', hwrap⟩ := Wrapping.exists_wrap_eq hw hi
  obtain rfl : c = c' := Option.some.inj (hc.symm.trans hc')
  rwa [Wrapping.written_of_isProtected hp] at hwrap

/-- The start of a substitution that runs into the tag at the cut, a cut right behind a tag that ends
the comment it stands in, a tag in a string and an opener that is never closed. -/
theorem wrap_left_to_right_straddling :
    let t := ("\x60$\x7b\x7b a \x7d\x7d$\x7b \x7b% b %\x7d \x7d\x60 // x \x7b\x7b c\n \x7d\x7d" ++
      "\x7b# d #\x7d '\x7b% \x7b\x7b e %\x7d' \x7b\x7b f").toList
    ¬ HasTagComment t ∧ tagContexts t = [.templateText, .templateExpr, .comment, .plain, .string] ∧
    (∀ (i : Nat) (s : TagSpan), (findTags t)[i]? = some s → ∃ c, (tagContexts t)[i]? = some c ∧
      wrap (t.take s.start) ++ Wrapping.written s.text c <+: wrap t) ∧
    ∀ s ∈ tagsInStrings t, wrap (t.take s.start) ++ s.text <+: wrap t := by
  intro t
  have h : ¬ HasTagComment t := by decide +kernel
  exact ⟨h, by decide +kernel, wrap_left_to_right t h⟩

end TemplateGuard
