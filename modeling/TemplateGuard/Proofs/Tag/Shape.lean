import TemplateGuard.Proofs.Cutting
import TemplateGuard.Tag.Span

namespace TemplateGuard

namespace TagKind

theorem closer_injective {k k' : TagKind} (h : k.closer = k'.closer) : k = k' := by
  cases k <;> cases k' <;> simp_all [closer, closeMark]

@[simp] theorem ofMark?_openMark (k : TagKind) : ofMark? k.openMark = some k :=
  ofMark?_eq_some_iff.mpr rfl

end TagKind

namespace Tag

/-- No closer of the kind begins in the body, not even one that shares its last character with the
closer after it. -/
def Unclosed (k : TagKind) (body : Text) : Prop := ¬ k.closer <:+: body ++ [k.closeMark]

/-- A whole tag of the kind and nothing after it. -/
def IsTag (k : TagKind) (s : Text) : Prop :=
  ∃ body, s = k.opener ++ body ++ k.closer ∧ Unclosed k body

theorem IsTag.exists_cons {k : TagKind} {s : Text} (h : IsTag k s) : ∃ t, s = '{' :: t := by
  obtain ⟨body, rfl, -⟩ := h
  exact ⟨_, rfl⟩

theorem IsTag.exists_concat {k : TagKind} {s : Text} (h : IsTag k s) : ∃ t, s = t ++ ['}'] := by
  obtain ⟨body, rfl, -⟩ := h
  exact ⟨k.opener ++ body ++ [k.closeMark], by simp [TagKind.closer]⟩

theorem IsTag.ne_nil {k : TagKind} {s : Text} (h : IsTag k s) : s ≠ [] := by
  obtain ⟨t, rfl⟩ := h.exists_cons
  simp

theorem unclosed_nil (k : TagKind) : Unclosed k [] := by
  intro h
  have hl := h.length_le
  simp [TagKind.closer] at hl

theorem unclosed_cons_iff (k : TagKind) (c : Char) (body : Text) :
    Unclosed k (c :: body) ↔
      ¬ (c = k.closeMark ∧ ∃ y, body ++ [k.closeMark] = '}' :: y) ∧ Unclosed k body := by
  have hp : k.closer <+: c :: (body ++ [k.closeMark]) ↔
      c = k.closeMark ∧ ∃ y, body ++ [k.closeMark] = '}' :: y := by
    rw [TagKind.closer, List.cons_prefix_cons]
    constructor
    · rintro ⟨rfl, y, hy⟩
      exact ⟨rfl, y, hy.symm⟩
    · rintro ⟨rfl, y, hy⟩
      exact ⟨rfl, y, hy.symm⟩
  rw [Unclosed, List.cons_append, List.infix_cons_iff, hp, not_or, Unclosed]

theorem closeLength_append (k : TagKind) (body rest : Text) (h : Unclosed k body) :
    closeLength k (body ++ k.closer ++ rest) = some (body.length + 2) := by
  induction body with
  | nil => simp [closeLength, TagKind.closer]
  | cons c body ih =>
    obtain ⟨hc, hb⟩ := (unclosed_cons_iff k c body).mp h
    obtain ⟨d, y, hy⟩ := List.exists_cons_of_ne_nil (l := body ++ [k.closeMark]) (by simp)
    have he : body ++ k.closer ++ rest = d :: (y ++ '}' :: rest) := by
      rw [← List.cons_append, ← hy]
      simp [TagKind.closer]
    have hn : ¬ (c = k.closeMark ∧ d = '}') := fun hd => hc ⟨hd.1, y, by rw [hy, hd.2]⟩
    have hi := ih hb
    rw [he] at hi
    simp only [List.cons_append, he, closeLength, if_neg hn, hi, Option.map_some, List.length_cons]

theorem exists_of_closeLength {k : TagKind} {t : Text} {n : Nat} (h : closeLength k t = some n) :
    ∃ body rest, t = body ++ k.closer ++ rest ∧ n = body.length + 2 ∧ Unclosed k body := by
  induction t generalizing n with
  | nil => simp [closeLength] at h
  | cons a t ih =>
    cases t with
    | nil => simp [closeLength] at h
    | cons b t =>
      rw [closeLength] at h
      split at h
      · next hc =>
        obtain ⟨rfl, rfl⟩ := hc
        exact ⟨[], t, rfl, by simpa using h.symm, unclosed_nil k⟩
      · next hc =>
        obtain ⟨m, hm, rfl⟩ := Option.map_eq_some_iff.mp h
        obtain ⟨body, rest, he, rfl, hu⟩ := ih hm
        refine ⟨a :: body, rest, by rw [he]; rfl, rfl, (unclosed_cons_iff k a body).mpr ⟨?_, hu⟩⟩
        rintro ⟨ha, y, hy⟩
        have he' : b :: t = '}' :: (y ++ '}' :: rest) := by
          rw [he, ← List.cons_append, ← hy]
          simp [TagKind.closer]
        exact hc ⟨ha, (List.cons.inj he').1⟩

theorem closeLength_isSome_iff (k : TagKind) (t : Text) :
    (closeLength k t).isSome ↔ k.closer <:+: t := by
  constructor
  · intro h
    obtain ⟨n, hn⟩ := Option.isSome_iff_exists.mp h
    obtain ⟨body, rest, rfl, -, -⟩ := exists_of_closeLength hn
    exact ⟨body, rest, rfl⟩
  · rintro ⟨a, b, rfl⟩
    induction a with
    | nil => simp [closeLength, TagKind.closer]
    | cons c a ih =>
      obtain ⟨d, y, hy⟩ := List.exists_cons_of_ne_nil (l := a ++ k.closer ++ b)
        (by simp [TagKind.closer])
      rw [hy] at ih
      simp only [List.cons_append, hy, closeLength]
      split
      · rfl
      · simpa using ih

theorem pattern_append {k : TagKind} {s : Text} (h : IsTag k s) (rest : Text) :
    pattern (s ++ rest) = some ⟨s.length, k⟩ := by
  obtain ⟨body, rfl, hu⟩ := h
  have he : k.opener ++ body ++ k.closer ++ rest =
      '{' :: k.openMark :: (body ++ k.closer ++ rest) := by simp [TagKind.opener]
  have hl : (k.opener ++ body ++ k.closer).length = body.length + 2 + 2 := by
    simp [TagKind.opener, TagKind.closer]
  rw [he, hl]
  simp only [pattern, TagKind.ofMark?_openMark, Option.bind_eq_bind, Option.bind_some,
    closeLength_append k body rest hu]
  rfl

/-- What the pattern takes is a tag. -/
theorem exists_isTag {t : Text} {m : Taken TagKind} (h : pattern t = some m) :
    ∃ s rest, t = s ++ rest ∧ m = ⟨s.length, m.value⟩ ∧ IsTag m.value s := by
  unfold pattern at h
  split at h
  · next c rest =>
    obtain ⟨k, hk, h⟩ := Option.bind_eq_some_iff.mp h
    obtain ⟨n, hn, h⟩ := Option.bind_eq_some_iff.mp h
    obtain rfl := TagKind.ofMark?_eq_some_iff.mp hk
    obtain ⟨body, rest, rfl, rfl, hu⟩ := exists_of_closeLength hn
    obtain rfl := Option.some.inj h
    exact ⟨k.opener ++ body ++ k.closer, rest, by simp [TagKind.opener],
      by simp [TagKind.opener, TagKind.closer], body, rfl, hu⟩
  · simp at h

theorem pattern_isSome_iff (t : Text) :
    (pattern t).isSome ↔
      ∃ (k : TagKind) (rest : Text), t = k.opener ++ rest ∧ k.closer <:+: rest := by
  constructor
  · intro h
    obtain ⟨m, hm⟩ := Option.isSome_iff_exists.mp h
    obtain ⟨s, rest, rfl, -, body, rfl, -⟩ := exists_isTag hm
    exact ⟨m.value, body ++ m.value.closer ++ rest, by simp, ⟨body, rest, rfl⟩⟩
  · rintro ⟨k, rest, rfl, hc⟩
    obtain ⟨n, hn⟩ := Option.isSome_iff_exists.mp ((closeLength_isSome_iff k rest).mpr hc)
    simp [pattern, TagKind.opener, hn]

theorem pattern_proper : Pattern.Proper pattern := by
  intro t m h
  obtain ⟨s, rest, rfl, hm, ht⟩ := exists_isTag h
  rw [hm]
  exact ⟨List.length_pos_of_ne_nil ht.ne_nil, by simp⟩

theorem pattern_cons_of_ne {c : Char} (hc : c ≠ '{') (t : Text) : pattern (c :: t) = none := by
  cases h : pattern (c :: t) with
  | none => rfl
  | some m =>
    obtain ⟨s, rest, he, -, ht⟩ := exists_isTag h
    obtain ⟨x, rfl⟩ := ht.exists_cons
    exact absurd (List.cons.inj he).1 hc

/-- What a match takes at the head of a text is a whole tag. -/
theorem isTag_of_pattern {s t : Text} {k : TagKind} (h : pattern (s ++ t) = some ⟨s.length, k⟩) :
    IsTag k s := by
  obtain ⟨s', rest, he, hm, ht⟩ := exists_isTag h
  obtain ⟨rfl, -⟩ := List.append_inj he (congrArg Taken.length hm)
  exact ht

/-- Every match found in a text is a whole tag. -/
theorem isTag_of_mem_cut (t : Text) {s : Text} {k : TagKind} (h : .found s k ∈ pattern.cut t) :
    IsTag k s := by
  obtain ⟨-, b, hb⟩ := Pattern.exists_of_mem_cut pattern_proper h
  exact isTag_of_pattern hb

end Tag

end TemplateGuard
