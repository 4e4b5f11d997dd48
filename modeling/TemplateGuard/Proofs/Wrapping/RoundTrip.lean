import TemplateGuard.Proofs.Tag.TagComment
import TemplateGuard.Proofs.Wrapping.Parts

namespace TemplateGuard

theorem hasWrapped_of_shape (a : Text) {ws tail : Text} (hw : Blank ws) (ht : Blank tail)
    (k : TagKind) (body rest : Text) :
    hasWrapped (a ++ (['/', '*'] ++ ws ++ (k.opener ++ body ++ k.closer) ++
      Wrapped.commentEnd tail ++ rest)) = true :=
  (Pattern.matchesIn_iff _ _).mpr
    ⟨a, _, rfl, by simp, Wrapped.pattern_isSome hw ht k body rest⟩

theorem hasWrapped_append {a b : Text} (h : hasWrapped (a ++ b) = false) :
    hasWrapped b = false := by
  rw [← Bool.not_eq_true] at h ⊢
  intro hb
  obtain ⟨x, y, rfl, hy, hp⟩ := (Pattern.matchesIn_iff _ _).mp hb
  exact h ((Pattern.matchesIn_iff _ _).mpr ⟨a ++ x, y, by simp, hy, hp⟩)

namespace Wrapping

/-- The parts start with a comment opener, blanks and the opener of a kind, all kept, and an
enclosed tag further on completes a wrapped tag from there: a tag of that kind, or one right behind
a closer of the kind, blanks and a star, to which it adds the slash. -/
def SwallowsAt (ps : List Part) : Prop :=
  ∃ (ws : Text) (k : TagKind) (b : List Part) (k' : TagKind) (s : Text) (c : List Part), Blank ws ∧
    ps = keep (['/', '*'] ++ ws ++ k.opener) ++ (b ++ .enclosed k' s :: c) ∧
    (k' = k ∨ ∃ b' ws', Blank ws' ∧ b = b' ++ keep (k.closer ++ ws' ++ ['*']))

def Swallows (ps : List Part) : Prop := ∃ a q, ps = a ++ q ∧ SwallowsAt q

theorem not_swallows_nil : ¬ Swallows [] := by
  rintro ⟨a, q, h, ws, k, b, k', s, c, -, rfl, -⟩
  simp at h

theorem swallows_cons_iff (p : Part) (ps : List Part) :
    Swallows (p :: ps) ↔ SwallowsAt (p :: ps) ∨ Swallows ps := by
  constructor
  · rintro ⟨a, q, h, hq⟩
    cases a with
    | nil => exact Or.inl (by rw [h]; exact hq)
    | cons d a => exact Or.inr ⟨a, q, (List.cons.inj h).2, hq⟩
  · rintro (h | ⟨a, q, rfl, hq⟩)
    · exact ⟨[], _, rfl, h⟩
    · exact ⟨p :: a, q, rfl, hq⟩

theorem not_swallowsAt_enclosed (k : TagKind) (s : Text) (ps : List Part) :
    ¬ SwallowsAt (.enclosed k s :: ps) := by
  rintro ⟨ws, k, b, k', s, c, -, h, -⟩
  simp at h

theorem pattern_after_enclosed {k : TagKind} {s : Text} (hs : Tag.IsTag k s) (rest : Text) :
    Wrapped.pattern (enclose s ++ rest) = some ⟨(enclose s).length, ⟨k, 3, s.length⟩⟩ := by
  have hb : Blank [' '] := Blank.nil.cons (by decide)
  have h := Wrapped.pattern_tag hs hb hb rest
  have he : ['/', '*'] ++ [' '] ++ s ++ Wrapped.commentEnd [' '] ++ rest = enclose s ++ rest := rfl
  have hl : (enclose s).length = 1 + s.length + 1 + 4 := by simp [enclose]; omega
  rw [he] at h
  rw [h, hl]
  rfl

theorem innerText_eq (k : TagKind) (ws s e : Text) :
    Wrapped.innerText (['/', '*'] ++ ws ++ s ++ e) ⟨k, ws.length + 2, s.length⟩ = s := by
  have h : (['/', '*'] ++ ws).length = ws.length + 2 := by simp
  rw [Wrapped.innerText, List.append_assoc, ← h, List.drop_left, List.take_left]

theorem unwrap_after_enclosed {k : TagKind} {s : Text} (hs : Tag.IsTag k s) (rest : Text) :
    unwrap (enclose s ++ rest) = s ++ unwrap rest := by
  have hn : enclose s ≠ [] := by simp [enclose]
  have hi : Wrapped.innerText (enclose s) ⟨k, 3, s.length⟩ = s :=
    innerText_eq k [' '] s [' ', '*', '/']
  rw [unwrap, Pattern.replace_found _ _ hn (pattern_after_enclosed hs rest), hi, unwrap]

/-- A match starts by leaving out a slash. -/
theorem unwrap_of_isSome {t : Text} (h : (Wrapped.pattern t).isSome) :
    ∃ x y, t = '/' :: x ∧ unwrap t = '{' :: y := by
  obtain ⟨m, hm⟩ := Option.isSome_iff_exists.mp h
  obtain ⟨ws, k, body, tail, rest, -, -, rfl, rfl⟩ := Wrapped.exists_of_pattern hm
  have hl : (k.opener ++ body ++ k.closer).length = body.length + 4 := by
    simp [TagKind.opener, TagKind.closer]
  have hn : (['/', '*'] ++ ws ++ (k.opener ++ body ++ k.closer) ++ Wrapped.commentEnd tail).length =
      ws.length + (body.length + 4) + tail.length + 4 := by
    simp only [List.length_append, hl, Wrapped.commentEnd, List.length_cons, List.length_nil]
    omega
  rw [← hn, ← hl] at hm
  refine ⟨'*' :: (ws ++ (k.opener ++ body ++ k.closer) ++ Wrapped.commentEnd tail ++ rest),
    k.openMark :: (body ++ k.closer ++ unwrap rest), by simp, ?_⟩
  rw [unwrap, Pattern.replace_found _ _ (by simp) hm, innerText_eq]
  rfl

/-- A closer that ends a whole tag is the closer of its kind. -/
theorem kind_eq_of_isTag {k k' : TagKind} {x : Text} (h : Tag.IsTag k' (x ++ k.closer)) :
    k' = k := by
  obtain ⟨body, he, -⟩ := h
  obtain ⟨-, hc⟩ := List.append_inj' he rfl
  exact (TagKind.closer_injective hc).symm

/-- What follows a closer inside an enclosed tag, the end of the comment included, can only be
blanks and a comment end if the closer ends the tag or the tag itself goes on that way. -/
theorem nil_or_commentEnd_of_tail {k : TagKind} {s x y tail v w : Text} (hs : Tag.IsTag k s)
    (he : s = x ++ y) (ht : Blank tail)
    (h : Wrapped.commentEnd tail ++ v = y ++ ([' ', '*', '/'] ++ w)) :
    y = [] ∨ ∃ z, y = Wrapped.commentEnd tail ++ z := by
  by_cases hy : y = []
  · exact Or.inl hy
  right
  obtain ⟨t, ht'⟩ := hs.exists_concat
  obtain ⟨y, c, rfl⟩ := List.eq_nil_or_concat y |>.resolve_left hy
  have hc : c = '}' := by
    rw [ht', List.concat_eq_append, ← List.append_assoc] at he
    exact (List.cons.inj (List.append_inj' he rfl).2).1.symm
  rw [hc, List.concat_eq_append, List.append_assoc] at h
  rcases List.append_eq_append_iff.mp h with ⟨z, rfl, -⟩ | ⟨z, hz, hv⟩
  · exact ⟨z ++ [c], by simp⟩
  · -- The closing brace of the tag would have to be a blank or part of the comment end.
    have hb : '}' ∉ Wrapped.commentEnd tail := by
      rw [Wrapped.commentEnd, List.mem_append, not_or]
      exact ⟨ht.not_mem (by decide), by decide⟩
    cases z with
    | nil => exact ⟨[c], by rw [hz]; simp⟩
    | cons d z =>
      obtain rfl : '}' = d := (List.cons.inj hv).1
      exact absurd (by rw [hz]; simp) hb

/-- A match in the wrapped text that begins at a kept character is one that an enclosed tag
completes, if the text itself has none. -/
theorem swallowsAt_of_isSome {c : Char} {ps : List Part} (ht : WholeTags (.kept c :: ps))
    (hw : hasWrapped (before (.kept c :: ps)) = false)
    (h : (Wrapped.pattern (after (.kept c :: ps))).isSome) : SwallowsAt (.kept c :: ps) := by
  obtain ⟨m, hm⟩ := Option.isSome_iff_exists.mp h
  obtain ⟨ws, k, body, tail, rest, hws, htail, he, -⟩ := Wrapped.exists_of_pattern hm
  obtain rfl : c = '/' := (List.cons.inj he).1
  have he' : after ps = ('*' :: (ws ++ k.opener)) ++
      (body ++ (k.closer ++ (Wrapped.commentEnd tail ++ rest))) := by simpa using he
  have hn : '/' ∉ '*' :: (ws ++ k.opener) := by
    have h1 : '/' ∉ ws := hws.not_mem (by decide)
    have h2 : '/' ∉ k.opener := by cases k <;> decide
    simp [h1, h2]
  obtain ⟨qs, rfl, hq⟩ := exists_keep_of_after hn he'
  rcases closer_in_after hq with ⟨a, b, rfl, -, hb⟩ | ⟨a, k', x, y, b, rfl, -, hv⟩
  · have hn' : '/' ∉ tail ++ ['*'] := by
      have h1 : '/' ∉ tail := htail.not_mem (by decide)
      simp [h1]
    obtain ⟨b, rfl, hb'⟩ := exists_keep_of_after (x := '/' :: rest) hn'
      (by rw [hb, Wrapped.commentEnd]; simp)
    cases b with
    | nil => simp at hb'
    | cons p b =>
      cases p with
      | kept d =>
        obtain rfl : d = '/' := (List.cons.inj hb').1
        have hh := hasWrapped_of_shape [] hws htail k (before a) (before b)
        refine absurd ((congrArg hasWrapped ?_).trans hh) (by rw [hw]; decide)
        simp [Wrapped.commentEnd]
      | enclosed k' s =>
        exact ⟨ws, k, a ++ keep (k.closer ++ tail ++ ['*']), k', s, b, hws, by simp,
          Or.inr ⟨a, tail, htail, rfl⟩⟩
  · have hs : Tag.IsTag k' (x ++ k.closer ++ y) := ht _ _ (by simp)
    rw [List.append_assoc] at hv
    rcases nil_or_commentEnd_of_tail hs rfl htail hv with rfl | ⟨z, rfl⟩
    · rw [List.append_nil] at hs
      exact ⟨ws, k, a, k', x ++ k.closer, b, hws, by simp, Or.inl (kind_eq_of_isTag hs)⟩
    · have hh := hasWrapped_of_shape [] hws htail k (before a ++ x) (z ++ before b)
      refine absurd ((congrArg hasWrapped ?_).trans hh) (by rw [hw]; decide)
      simp

theorem isSome_of_swallowsAt {ps : List Part} (ht : WholeTags ps) (h : SwallowsAt ps) :
    (Wrapped.pattern (after ps)).isSome := by
  obtain ⟨ws, k, b, k', s, d, hws, rfl, hk⟩ := h
  rcases hk with rfl | ⟨b, ws', hws', rfl⟩
  · obtain ⟨body, rfl, -⟩ := ht k' s (by simp)
    have hb : Blank [' '] := Blank.nil.cons (by decide)
    have hh := Wrapped.pattern_isSome hws hb k'
      (after b ++ ['/', '*', ' '] ++ k'.opener ++ body) (after d)
    simpa [enclose, Wrapped.commentEnd] using hh
  · have hh := Wrapped.pattern_isSome hws hws' k (after b)
      (['*', ' '] ++ s ++ [' ', '*', '/'] ++ after d)
    simpa [enclose, Wrapped.commentEnd] using hh

/-- Unwrapping gives back the text exactly when no front in it swallows what wrapping inserts. -/
theorem unwrap_after_iff {ps : List Part} (ht : WholeTags ps)
    (hw : hasWrapped (before ps) = false) : unwrap (after ps) = before ps ↔ ¬ Swallows ps := by
  induction ps with
  | nil => exact iff_of_true rfl not_swallows_nil
  | cons p ps ih =>
    have hi := ih ht.of_cons (hasWrapped_append hw)
    rw [swallows_cons_iff, not_or, ← hi]
    cases p with
    | enclosed k s =>
      rw [after_enclosed, unwrap_after_enclosed (ht k s List.mem_cons_self), before_enclosed,
        List.append_cancel_left_eq]
      simp [not_swallowsAt_enclosed]
    | kept c =>
      have hs : SwallowsAt (.kept c :: ps) ↔ (Wrapped.pattern (after (.kept c :: ps))).isSome :=
        ⟨isSome_of_swallowsAt ht, swallowsAt_of_isSome ht hw⟩
      rw [hs]
      by_cases hp : (Wrapped.pattern (after (.kept c :: ps))).isSome
      · obtain ⟨x, y, hx, hy⟩ := unwrap_of_isSome hp
        obtain rfl : c = '/' := (List.cons.inj hx).1
        rw [hy, before_kept]
        exact iff_of_false (by simp) (fun h => h.1 hp)
      · have hn : Wrapped.pattern (c :: after ps) = none := by simpa using hp
        have hu : unwrap (after (.kept c :: ps)) = c :: unwrap (after ps) :=
          Pattern.replace_cons_of_none _ _ hn
        rw [hu, before_kept, List.cons_inj_right]
        exact ⟨fun h => ⟨hp, h⟩, And.right⟩

theorem hasTagComment_of_swallows {ps : List Part} (h : Swallows ps) :
    HasTagComment (before ps) := by
  obtain ⟨a, q, rfl, ws, k, b, k', s, c, hw, rfl, -⟩ := h
  exact ⟨before a, ws, k, before b ++ s ++ before c, hw, by simp⟩

end Wrapping

/-- Wrapping can be undone in every text in which no comment opener stands in front of a tag
opener, whatever else the text and its tags hold. -/
theorem unwrap_wrap (t : Text) (h : ¬ HasTagComment t) : unwrap (wrap t) = t := by
  have hw : hasWrapped t = false := by
    rw [← Bool.not_eq_true]
    exact fun hw => h (hasTagComment_of_hasWrapped hw)
  have hs : ¬ Wrapping.Swallows (Wrapping.parts t) := by
    intro hs
    have hc := Wrapping.hasTagComment_of_swallows hs
    rw [Wrapping.before_parts] at hc
    exact h hc
  have hu := (Wrapping.unwrap_after_iff (Wrapping.wholeTags_parts t) (by simpa using hw)).mpr hs
  simpa using hu

/-- A comment end and an opener in a tag, a slash and a star beside it, neighbours without a gap, a
string and an opener without a closer. -/
theorem unwrap_wrap_crowded :
    let t := ("/\x7b\x7b a */ \x7b% \x7d\x7d*\x7b# ' #\x7d\x7b\x7b b \x7d\x7d " ++
      "\"\x7b% c %\x7d\" \x7b# d").toList
    ¬ HasTagComment t ∧ unwrap (wrap t) = t := by
  intro t
  have h : ¬ HasTagComment t := by decide
  exact ⟨h, unwrap_wrap t h⟩

end TemplateGuard
