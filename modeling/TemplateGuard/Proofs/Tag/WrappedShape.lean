import Mathlib.Data.List.TakeWhile
import TemplateGuard.Proofs.Tag.Shape
import TemplateGuard.Tag.Wrapped

namespace TemplateGuard

/-- A stretch of blanks. -/
def Blank (ws : Text) : Prop := ∀ c ∈ ws, isBlank c = true

namespace Blank

theorem nil : Blank [] := by
  intro c hc
  simp at hc

theorem cons {c : Char} {ws : Text} (hc : isBlank c = true) (h : Blank ws) : Blank (c :: ws) := by
  intro d hd
  rcases List.mem_cons.mp hd with rfl | hd
  · exact hc
  · exact h d hd

theorem tail {c : Char} {ws : Text} (h : Blank (c :: ws)) : Blank ws :=
  fun d hd => h d (List.mem_cons_of_mem c hd)

theorem not_mem {ws : Text} (h : Blank ws) {c : Char} (hc : isBlank c = false) : c ∉ ws := by
  intro hm
  rw [h c hm] at hc
  exact Bool.noConfusion hc

theorem of_takeWhile (t : Text) : Blank (t.takeWhile isBlank) :=
  fun _ hc => List.mem_takeWhile_imp hc

end Blank

namespace Wrapped

/-- The end of a comment, up to blanks before it. -/
def commentEnd (ws : Text) : Text := ws ++ ['*', '/']

theorem endLength_cons_of_blank {c : Char} (hc : isBlank c = true) (t : Text) :
    endLength (c :: t) = (endLength t).map (· + 1) := by
  conv_lhs => unfold endLength
  split
  · next he =>
    obtain ⟨rfl, -⟩ := List.cons.inj he
    exact absurd hc (by decide)
  · next he =>
    obtain ⟨rfl, rfl⟩ := List.cons.inj he
    rw [if_pos hc]
  · next he => simp at he

theorem endLength_append {ws : Text} (h : Blank ws) (rest : Text) :
    endLength (commentEnd ws ++ rest) = some (ws.length + 2) := by
  induction ws with
  | nil => rfl
  | cons c ws ih =>
    have he : commentEnd (c :: ws) ++ rest = c :: (commentEnd ws ++ rest) := rfl
    rw [he, endLength_cons_of_blank (h c (by simp)), ih h.tail]
    rfl

theorem exists_of_endLength {t : Text} {n : Nat} (h : endLength t = some n) :
    ∃ ws rest, Blank ws ∧ t = commentEnd ws ++ rest ∧ n = ws.length + 2 := by
  induction t generalizing n with
  | nil =>
    have hn : none = some n := h
    simp at hn
  | cons c t ih =>
    unfold endLength at h
    split at h
    · next rest he =>
      exact ⟨[], rest, Blank.nil, he, by simpa using h.symm⟩
    · next d rest hne he =>
      obtain ⟨rfl, rfl⟩ := List.cons.inj he
      split at h
      · next hb =>
        obtain ⟨m, hm, rfl⟩ := Option.map_eq_some_iff.mp h
        obtain ⟨ws, rest, hw, rfl, rfl⟩ := ih hm
        exact ⟨c :: ws, rest, hw.cons hb, rfl, rfl⟩
      · simp at h
    · next he => simp at he

/-- Over a whole tag the search for the closer stops at the tag's own one. -/
theorem closeLengths_append {k : TagKind} {body ws : Text} (hu : Tag.Unclosed k body)
    (hw : Blank ws) (rest : Text) :
    closeLengths k (body ++ k.closer ++ (commentEnd ws ++ rest)) =
      some (body.length + 2, ws.length + 2) := by
  induction body with
  | nil => simp [closeLengths, TagKind.closer, endLength_append hw]
  | cons c body ih =>
    obtain ⟨hc, hb⟩ := (Tag.unclosed_cons_iff k c body).mp hu
    obtain ⟨d, y, hy⟩ := List.exists_cons_of_ne_nil (l := body ++ [k.closeMark]) (by simp)
    have he : body ++ k.closer ++ (commentEnd ws ++ rest) =
        d :: (y ++ '}' :: (commentEnd ws ++ rest)) := by
      rw [← List.cons_append, ← hy]
      simp [TagKind.closer]
    have hn : ¬ (c = k.closeMark ∧ d = '}') := fun hd => hc ⟨hd.1, y, by rw [hy, hd.2]⟩
    have hi := ih hb
    rw [he] at hi
    simp only [List.cons_append, he, closeLengths, if_neg hn, hi, Option.map_some,
      List.length_cons]

theorem exists_of_closeLengths {k : TagKind} {t : Text} {n e : Nat}
    (h : closeLengths k t = some (n, e)) :
    ∃ body ws rest, t = body ++ k.closer ++ (commentEnd ws ++ rest) ∧ Blank ws ∧
      n = body.length + 2 ∧ e = ws.length + 2 := by
  induction t generalizing n with
  | nil => simp [closeLengths] at h
  | cons a t ih =>
    cases t with
    | nil => simp [closeLengths] at h
    | cons b t =>
      rw [closeLengths] at h
      split at h
      · next r hr =>
        split at hr
        · next hc =>
          obtain ⟨rfl, rfl⟩ := hc
          obtain ⟨ws, rest, hw, rfl, rfl⟩ := exists_of_endLength hr
          obtain ⟨rfl, rfl⟩ := Prod.mk.inj (Option.some.inj h)
          exact ⟨[], ws, rest, rfl, hw, rfl, rfl⟩
        · simp at hr
      · obtain ⟨⟨m, r⟩, hm, hp⟩ := Option.map_eq_some_iff.mp h
        obtain ⟨rfl, rfl⟩ := Prod.mk.inj hp
        obtain ⟨body, ws, rest, he, hw, rfl, rfl⟩ := ih hm
        exact ⟨a :: body, ws, rest, by rw [he]; rfl, hw, rfl, rfl⟩

theorem closeLengths_isSome (k : TagKind) (body : Text) {ws : Text} (hw : Blank ws) (rest : Text) :
    (closeLengths k (body ++ k.closer ++ (commentEnd ws ++ rest))).isSome := by
  induction body with
  | nil => simp [closeLengths, TagKind.closer, endLength_append hw]
  | cons c body ih =>
    obtain ⟨d, y, hy⟩ := List.exists_cons_of_ne_nil
      (l := body ++ k.closer ++ (commentEnd ws ++ rest)) (by simp [TagKind.closer])
    rw [hy] at ih
    simp only [List.cons_append, hy, closeLengths]
    split
    · rfl
    · simpa using ih

theorem pattern_eq {ws : Text} (hw : Blank ws) (t : Text) :
    pattern ('/' :: '*' :: (ws ++ '{' :: t)) = afterBlanks ws.length ('{' :: t) := by
  have hb : isBlank '{' = false := by decide
  rw [pattern, List.takeWhile_append_of_pos hw, List.dropWhile_append_of_pos hw]
  simp [hb]

/-- The pattern looks for a comment opener, blanks and a tag opener, and then for what completes
them. -/
theorem pattern_eq_some_iff (t : Text) (m : Taken Inside) :
    pattern t = some m ↔ ∃ (ws : Text) (k : TagKind) (rest : Text) (n e : Nat), Blank ws ∧
      t = ['/', '*'] ++ ws ++ k.opener ++ rest ∧ closeLengths k rest = some (n, e) ∧
      m = ⟨ws.length + (n + 2) + e + 2, ⟨k, ws.length + 2, n + 2⟩⟩ := by
  constructor
  · intro h
    unfold pattern at h
    split at h
    · next t =>
      have ht : t = t.takeWhile isBlank ++ t.dropWhile isBlank :=
        (List.takeWhile_append_dropWhile).symm
      have hws := Blank.of_takeWhile t
      generalize t.takeWhile isBlank = ws at ht hws h
      unfold afterBlanks at h
      split at h
      · next c x hx =>
        obtain ⟨k, hk, hrest⟩ := Option.bind_eq_some_iff.mp h
        obtain ⟨⟨n, e⟩, hn, hm⟩ := Option.bind_eq_some_iff.mp hrest
        obtain rfl := TagKind.ofMark?_eq_some_iff.mp hk
        obtain rfl := Option.some.inj hm
        refine ⟨ws, k, x, n, e, hws, ?_, hn, rfl⟩
        rw [ht, hx]
        simp [TagKind.opener]
      · simp at h
    · simp at h
  · rintro ⟨ws, k, rest, n, e, hws, rfl, hn, rfl⟩
    have he : ['/', '*'] ++ ws ++ k.opener ++ rest =
        '/' :: '*' :: (ws ++ '{' :: k.openMark :: rest) := by simp [TagKind.opener]
    rw [he, pattern_eq hws]
    simp only [afterBlanks, TagKind.ofMark?_openMark, Option.bind_eq_bind, Option.bind_some, hn]
    rfl

/-- Around a whole tag the match takes that tag, whatever follows. -/
theorem pattern_tag {k : TagKind} {s ws tail : Text} (hs : Tag.IsTag k s) (hw : Blank ws)
    (ht : Blank tail) (rest : Text) :
    pattern (['/', '*'] ++ ws ++ s ++ commentEnd tail ++ rest) =
      some ⟨ws.length + s.length + tail.length + 4, ⟨k, ws.length + 2, s.length⟩⟩ := by
  obtain ⟨body, rfl, hu⟩ := hs
  have hl : (k.opener ++ body ++ k.closer).length = body.length + 2 + 2 := by
    simp [TagKind.opener, TagKind.closer]
  refine (pattern_eq_some_iff _ _).mpr ⟨ws, k, body ++ k.closer ++ (commentEnd tail ++ rest),
    body.length + 2, tail.length + 2, hw, by simp, closeLengths_append hu ht rest, ?_⟩
  rw [hl, Taken.mk.injEq]
  exact ⟨by omega, rfl⟩

theorem exists_of_pattern {t : Text} {m : Taken Inside} (h : pattern t = some m) :
    ∃ (ws : Text) (k : TagKind) (body tail rest : Text), Blank ws ∧ Blank tail ∧
      t = ['/', '*'] ++ ws ++ (k.opener ++ body ++ k.closer) ++ commentEnd tail ++ rest ∧
      m = ⟨ws.length + (body.length + 4) + tail.length + 4,
        ⟨k, ws.length + 2, body.length + 4⟩⟩ := by
  obtain ⟨ws, k, x, n, e, hws, rfl, hn, rfl⟩ := (pattern_eq_some_iff t m).mp h
  obtain ⟨body, tail, rest, rfl, htail, rfl, rfl⟩ := exists_of_closeLengths hn
  exact ⟨ws, k, body, tail, rest, hws, htail, by simp, rfl⟩

theorem pattern_isSome {ws tail : Text} (hw : Blank ws) (ht : Blank tail) (k : TagKind)
    (body rest : Text) :
    (pattern (['/', '*'] ++ ws ++ (k.opener ++ body ++ k.closer) ++ commentEnd tail ++
      rest)).isSome := by
  obtain ⟨⟨n, e⟩, hp⟩ := Option.isSome_iff_exists.mp (closeLengths_isSome k body ht rest)
  refine Option.isSome_iff_exists.mpr ⟨_, (pattern_eq_some_iff _ _).mpr
    ⟨ws, k, body ++ k.closer ++ (commentEnd tail ++ rest), n, e, hw, by simp, hp, rfl⟩⟩

theorem pattern_proper : Pattern.Proper pattern := by
  intro t m h
  obtain ⟨ws, k, body, tail, rest, -, -, rfl, rfl⟩ := exists_of_pattern h
  simp [TagKind.opener, TagKind.closer, commentEnd]
  omega

/-- Every match found in a text starts and ends with a slash. -/
theorem exists_of_mem_cut {t s : Text} {i : Inside} (h : .found s i ∈ pattern.cut t) :
    ∃ m, s = '/' :: (m ++ ['/']) := by
  obtain ⟨-, b, hb⟩ := Pattern.exists_of_mem_cut pattern_proper h
  obtain ⟨ws, k, body, tail, rest, -, -, he, hm⟩ := exists_of_pattern hb
  have hl : s.length =
      (['/', '*'] ++ ws ++ (k.opener ++ body ++ k.closer) ++ commentEnd tail).length := by
    refine (congrArg Taken.length hm).trans ?_
    simp [TagKind.opener, TagKind.closer, commentEnd]
    omega
  obtain ⟨rfl, -⟩ := List.append_inj he hl
  exact ⟨'*' :: (ws ++ (k.opener ++ body ++ k.closer) ++ tail ++ ['*']), by simp [commentEnd]⟩

end Wrapped

end TemplateGuard
