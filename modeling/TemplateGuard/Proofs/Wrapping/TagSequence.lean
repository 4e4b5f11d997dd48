import TemplateGuard.Proofs.Wrapping.Parts

namespace TemplateGuard.Wrapping

/-- The pieces of a text with plain comment delimiters around the tags that are to be enclosed. -/
def encloseAll : List (Piece TagKind) → List Bool → List (Piece TagKind)
  | [], _ => []
  | .plain c :: ps, ds => .plain c :: encloseAll ps ds
  | .found s k :: ps, true :: ds =>
    .plain '/' :: .plain '*' :: .plain ' ' :: .found s k ::
      .plain ' ' :: .plain '*' :: .plain '/' :: encloseAll ps ds
  | .found s k :: ps, ds => .found s k :: encloseAll ps ds.tail

/-- A character that starts no tag still starts none when the tags after it are enclosed. -/
theorem pattern_assemble_of_none {c : Char} {t : Text} (h : Tag.pattern (c :: t) = none)
    (ds : List Bool) : Tag.pattern (c :: assemble (Tag.pattern.cut t) ds) = none := by
  by_contra hn
  obtain ⟨k, rest, he, hc⟩ := (Tag.pattern_isSome_iff _).mp (Option.isSome_iff_ne_none.mpr hn)
  obtain ⟨rfl, -⟩ := List.cons.inj he
  have ha : after (partsOf (Tag.pattern.cut t) ds) = [k.openMark] ++ rest := by
    rw [after_partsOf]
    exact (List.cons.inj he).2
  obtain ⟨qs, hq, rfl⟩ := exists_keep_of_after (by cases k <;> decide) ha
  have ht : t = k.openMark :: before qs := by
    rw [← Pattern.sources_cut Tag.pattern t, ← before_partsOf _ ds, hq]
    rfl
  have hs := (Tag.pattern_isSome_iff ('{' :: t)).mpr
    ⟨k, before qs, by rw [ht]; rfl, closer_infix_before hc⟩
  rw [h] at hs
  simp at hs

theorem cut_enclose {k : TagKind} {s : Text} (hs : Tag.IsTag k s) (t : Text) :
    Tag.pattern.cut (enclose s ++ t) =
      .plain '/' :: .plain '*' :: .plain ' ' :: .found s k ::
        .plain ' ' :: .plain '*' :: .plain '/' :: Tag.pattern.cut t := by
  have he : enclose s ++ t = '/' :: '*' :: ' ' :: (s ++ ' ' :: '*' :: '/' :: t) := by simp [enclose]
  have hp : ∀ c ∈ ['/', '*', ' '], ∀ u,
      Tag.pattern.cut (c :: u) = .plain c :: Tag.pattern.cut u := by
    intro c hc u
    exact Pattern.cut_cons_of_none _ (Tag.pattern_cons_of_ne (by rintro rfl; simp at hc) u)
  rw [he, hp '/' (by simp), hp '*' (by simp), hp ' ' (by simp),
    Pattern.cut_found _ hs.ne_nil (Tag.pattern_append hs _), hp ' ' (by simp), hp '*' (by simp),
    hp '/' (by simp)]

/-- Whatever tags are enclosed, the wrapped text is cut at the same tags. -/
theorem cut_assemble (t : Text) (ds : List Bool) :
    Tag.pattern.cut (assemble (Tag.pattern.cut t) ds) = encloseAll (Tag.pattern.cut t) ds := by
  induction t using Pattern.cut_induction Tag.pattern_proper generalizing ds with
  | nil => rfl
  | plain c t hn ih =>
    rw [Pattern.cut_cons_of_none _ hn, assemble, encloseAll, ← ih]
    exact Pattern.cut_cons_of_none _ (pattern_assemble_of_none hn ds)
  | found a b v ha hv ih =>
    have hs : Tag.IsTag v a := Tag.isTag_of_pattern hv
    rw [Pattern.cut_found _ ha hv]
    have hp := Tag.pattern_append hs (assemble (Tag.pattern.cut b) ds.tail)
    cases ds with
    | nil =>
      rw [assemble, encloseAll, Pattern.cut_found _ ha hp, ih]
      all_goals simp
    | cons d ds =>
      cases d with
      | true => rw [assemble, encloseAll, cut_enclose hs, ih]
      | false =>
        rw [assemble, encloseAll, Pattern.cut_found _ ha hp, ih]
        all_goals simp

theorem cut_wrap (t : Text) :
    Tag.pattern.cut (wrap t) = encloseAll (Tag.pattern.cut t) (decisions t) := cut_assemble t _

/-- Comment delimiters around tags move the tags and change nothing else about them. -/
theorem snd_located_encloseAll (n m : Nat) (ps : List (Piece TagKind)) (ds : List Bool) :
    (Piece.located n (encloseAll ps ds)).map Prod.snd = (Piece.located m ps).map Prod.snd := by
  induction ps, ds using encloseAll.induct generalizing n m with
  | case1 ds => rfl
  | case2 c ps ds ih => exact ih (n + 1) (m + 1)
  | case3 s k ps ds ih => exact congrArg ((s, k) :: ·) (ih _ (m + s.length))
  | case4 s k ps ds h ih =>
    rw [encloseAll]
    · exact congrArg ((s, k) :: ·) (ih _ (m + s.length))
    · exact h

theorem snd_locate_wrap (t : Text) :
    (Tag.pattern.locate (wrap t)).map Prod.snd = (Tag.pattern.locate t).map Prod.snd := by
  rw [Pattern.locate, cut_wrap]
  exact snd_located_encloseAll 0 0 (Tag.pattern.cut t) (decisions t)

/-- Whatever the text and its tags hold, wrapping it makes no tag, loses none and leaves each its
text, its kind and its place among the others. -/
theorem findTags_wrap (t : Text) :
    (findTags (wrap t)).map (fun s => (s.text, s.kind)) =
      (findTags t).map fun s => (s.text, s.kind) := by
  simp only [findTags, List.map_map]
  exact snd_locate_wrap t

end TemplateGuard.Wrapping
