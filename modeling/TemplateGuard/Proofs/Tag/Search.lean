import TemplateGuard.Proofs.Leftmost
import TemplateGuard.Proofs.Tag.Shape

namespace TemplateGuard

/-- The word begins in the text at the offset. -/
def BeginsAt (word t : Text) (i : Nat) : Prop := word <+: t.drop i

/-- The first place from `i` on at which the word begins is `j`. -/
structure FirstFrom (word t : Text) (i j : Nat) : Prop where
  le : i ≤ j
  begins : BeginsAt word t j
  first : ∀ l, i ≤ l → l < j → ¬ BeginsAt word t l

/-- The span holds the text from an opener of its kind to the end of the first closer behind it. -/
structure TagSpan.Delimits (s : TagSpan) (t : Text) : Prop where
  text_eq : s.text = t.between s.start s.stop
  opens : BeginsAt s.kind.opener t s.start
  closes : ∃ j, FirstFrom s.kind.closer t (s.start + 2) j ∧ s.stop = j + 2

namespace Tag

/-- No closer begins in a body exactly if the first closer is the one behind it. -/
theorem unclosed_iff (k : TagKind) (body rest : Text) :
    Unclosed k body ↔
      ∀ d, d < body.length → ¬ k.closer <+: (body ++ k.closer ++ rest).drop d := by
  have he : body ++ k.closer ++ rest = (body ++ [k.closeMark]) ++ '}' :: rest := by
    simp [TagKind.closer]
  constructor
  · intro h d hd hc
    rw [he, List.drop_append_of_le_length (by simp; omega)] at hc
    have hl : k.closer.length ≤ ((body ++ [k.closeMark]).drop d).length := by
      simp [TagKind.closer]
      omega
    have hp := List.prefix_of_prefix_length_le hc (List.prefix_append _ _) hl
    exact h (hp.isInfix.trans (List.drop_suffix d _).isInfix)
  · rintro h ⟨x, y, hxy⟩
    have hlen := congrArg List.length hxy
    simp only [List.length_append, TagKind.closer, List.length_cons, List.length_nil] at hlen
    refine h x.length (by omega) ⟨y ++ '}' :: rest, ?_⟩
    rw [he, ← hxy, List.append_assoc, List.append_assoc, List.drop_left]

theorem drop_behind_opener {k : TagKind} {t u : Text} {i : Nat} (h : k.opener ++ u = t.drop i)
    (d : Nat) : t.drop (i + 2 + d) = u.drop d := by
  rw [← List.drop_drop, ← List.drop_drop, ← h]
  rfl

/-- The pattern takes a tag at an offset up to the end of the first closer. -/
theorem pattern_drop_eq_some_iff (t : Text) (i n : Nat) (k : TagKind) :
    pattern (t.drop i) = some ⟨n, k⟩ ↔
      BeginsAt k.opener t i ∧ ∃ j, FirstFrom k.closer t (i + 2) j ∧ i + n = j + 2 := by
  constructor
  · intro h
    obtain ⟨s, rest, he, hm, body, rfl, hb⟩ := exists_isTag h
    have hu : k.opener ++ (body ++ k.closer ++ rest) = t.drop i := by
      rw [he]
      simp only [List.append_assoc]
    have hn : n = (k.opener ++ body ++ k.closer).length := congrArg Taken.length hm
    refine ⟨⟨_, hu⟩, i + 2 + body.length, ⟨by omega, ⟨rest, ?begins⟩, ?first⟩, ?stop⟩
    case begins => rw [drop_behind_opener hu, List.append_assoc, List.drop_left]
    case first =>
      intro l hl hlt
      obtain ⟨d, rfl⟩ := Nat.exists_eq_add_of_le hl
      rw [BeginsAt, drop_behind_opener hu]
      exact (unclosed_iff k body rest).mp hb d (by omega)
    case stop =>
      simp [hn, TagKind.opener, TagKind.closer]
      omega
  · rintro ⟨⟨u, hu⟩, j, ⟨hj, ⟨rest, hr⟩, hfirst⟩, hn⟩
    obtain ⟨d, rfl⟩ := Nat.exists_eq_add_of_le hj
    rw [drop_behind_opener hu] at hr
    have hsplit : u = u.take d ++ k.closer ++ rest := by
      rw [List.append_assoc, hr, List.take_append_drop]
    have hd : (u.take d).length = d := by
      have hl := congrArg List.length hr
      simp only [List.length_append, List.length_drop, TagKind.closer, List.length_cons] at hl
      rw [List.length_take]
      omega
    generalize u.take d = body at hsplit hd
    subst hsplit hd
    have hb : IsTag k (k.opener ++ body ++ k.closer) := by
      refine ⟨body, rfl, (unclosed_iff k body rest).mpr fun e he => ?_⟩
      rw [← drop_behind_opener hu]
      exact hfirst _ (by omega) (by omega)
    have ht : t.drop i = k.opener ++ body ++ k.closer ++ rest := by
      rw [← hu]
      simp only [List.append_assoc]
    have hl : (k.opener ++ body ++ k.closer).length = n := by
      simp [TagKind.opener, TagKind.closer]
      omega
    rw [ht, pattern_append hb, hl]

theorem pattern_drop_isSome_iff (t : Text) (i : Nat) : (pattern (t.drop i)).isSome ↔
    ∃ (k : TagKind) (j : Nat), BeginsAt k.opener t i ∧ i + 2 ≤ j ∧ BeginsAt k.closer t j := by
  constructor
  · intro h
    obtain ⟨⟨n, k⟩, hm⟩ := Option.isSome_iff_exists.mp h
    obtain ⟨ho, j, hj, -⟩ := (pattern_drop_eq_some_iff t i n k).mp hm
    exact ⟨k, j, ho, hj.le, hj.begins⟩
  · rintro ⟨k, j, ⟨u, hu⟩, hj, hc⟩
    obtain ⟨d, rfl⟩ := Nat.exists_eq_add_of_le hj
    rw [BeginsAt, drop_behind_opener hu] at hc
    exact (pattern_isSome_iff _).mpr
      ⟨k, u, hu.symm, hc.isInfix.trans (List.drop_suffix d u).isInfix⟩

/-- The pattern takes nothing at an offset exactly if no opener there has a closer behind it. -/
theorem pattern_drop_eq_none_iff (t : Text) (i : Nat) : pattern (t.drop i) = none ↔
    ∀ (k : TagKind) (j : Nat), BeginsAt k.opener t i → i + 2 ≤ j → ¬ BeginsAt k.closer t j := by
  rw [← Option.not_isSome_iff_eq_none, pattern_drop_isSome_iff]
  simp only [not_exists, not_and]

end Tag

/-- A span delimits a tag exactly if the pattern takes its text where it starts. -/
theorem TagSpan.delimits_iff (s : TagSpan) (t : Text) :
    s.Delimits t ↔ s.stop = s.start + s.text.length ∧ s.text <+: t.drop s.start ∧
      Tag.pattern (t.drop s.start) = some ⟨s.text.length, s.kind⟩ := by
  rw [Tag.pattern_drop_eq_some_iff]
  constructor
  · rintro ⟨htext, hopen, j, hj, hstop⟩
    have hlen : s.text.length = s.stop - s.start := by
      have hl := hj.begins.length_le
      have hle := hj.le
      simp only [List.length_drop, TagKind.closer, List.length_cons, List.length_nil] at hl
      rw [htext, Text.between, List.length_take, List.length_drop]
      omega
    have hle := hj.le
    refine ⟨by omega, ?_, hopen, j, hj, by omega⟩
    rw [htext]
    exact List.take_prefix _ _
  · rintro ⟨hstop, hpre, hopen, j, hj, hn⟩
    refine ⟨?_, hopen, j, hj, by omega⟩
    rw [Text.between, hstop, Nat.add_sub_cancel_left]
    exact List.prefix_iff_eq_take.mp hpre

/-- The spans of the tags are the matches of the pattern with their ends. -/
theorem findTags_eq_iff_locate (t : Text) (spans : List TagSpan) :
    findTags t = spans ↔ (∀ s ∈ spans, s.stop = s.start + s.text.length) ∧
      Tag.pattern.locate t = spans.map fun s => (s.start, s.text, s.kind) := by
  constructor
  · rintro rfl
    constructor
    · intro s hs
      obtain ⟨m, -, rfl⟩ := List.mem_map.mp hs
      rfl
    · rw [findTags, List.map_map]
      exact (List.map_id _).symm
  · rintro ⟨hstop, hl⟩
    rw [findTags, hl, List.map_map]
    refine (List.map_congr_left fun s hs => ?_).trans (List.map_id spans)
    simp only [Function.comp, ← hstop s hs]
    rfl

theorem Tag.leftmost_locate (t : Text) : pattern.Leftmost t 0 (pattern.locate t) :=
  (Pattern.locate_eq_iff pattern_proper t _).mp rfl

/-- A tag that is found takes up some characters of the text. -/
theorem bounds_of_mem_findTags {t : Text} {s : TagSpan} (h : s ∈ findTags t) :
    s.start < s.stop ∧ s.stop ≤ t.length := by
  obtain ⟨⟨i, x, k⟩, hm, rfl⟩ := List.mem_map.mp h
  obtain ⟨-, hx, hv⟩ := (Tag.leftmost_locate t).taken i x k hm
  have hpos := (Tag.pattern_proper _ _ hv).1
  have hle := hx.length_le
  simp only [List.length_drop] at hpos hle ⊢
  omega

theorem nodup_findTags (t : Text) : (findTags t).Nodup := by
  refine List.pairwise_map.mpr ((Tag.leftmost_locate t).ascending.imp_of_mem ?_)
  intro a b ha _ hab he
  have hstart : a.1 = b.1 := congrArg TagSpan.start he
  have hpos : a.1 < a.1 + a.2.1.length := (bounds_of_mem_findTags (List.mem_map_of_mem ha)).1
  have hnext : a.1 + a.2.1.length ≤ b.1 := hab
  omega

/-- The tags found in a text are those of the only list of spans that follow each other without
overlap, each from an opener to the first closer behind it, such that at no place outside them an
opener begins that has a closer anywhere behind it. -/
theorem findTags_eq_iff (t : Text) (spans : List TagSpan) :
    findTags t = spans ↔
      (spans.Pairwise fun a b => a.stop ≤ b.start) ∧
      (∀ s ∈ spans, s.Delimits t) ∧
      ∀ i, (∀ s ∈ spans, i < s.start ∨ s.stop ≤ i) →
        ∀ (k : TagKind) (j : Nat), BeginsAt k.opener t i → i + 2 ≤ j → ¬ BeginsAt k.closer t j := by
  simp only [← Tag.pattern_drop_eq_none_iff, TagSpan.delimits_iff]
  rw [findTags_eq_iff_locate, Pattern.locate_eq_iff Tag.pattern_proper]
  constructor
  · rintro ⟨hstop, hasc, htaken, hcomplete⟩
    refine ⟨(List.pairwise_map.mp hasc).imp_of_mem ?apart, ?delimits, ?outside⟩
    case apart =>
      intro a b ha _ hab
      rw [hstop a ha]
      exact hab
    case delimits =>
      intro s hs
      exact ⟨hstop s hs, (htaken _ _ _ (List.mem_map_of_mem hs)).2⟩
    case outside =>
      intro i hi
      refine hcomplete i (Nat.zero_le i) fun j x k hm => ?_
      obtain ⟨s, hs, he⟩ := List.mem_map.mp hm
      obtain ⟨rfl, rfl, rfl⟩ : s.start = j ∧ s.text = x ∧ s.kind = k := by simpa using he
      rw [← hstop s hs]
      exact hi s hs
  · rintro ⟨hasc, hdel, hcomplete⟩
    have hstop : ∀ s ∈ spans, s.stop = s.start + s.text.length := fun s hs => (hdel s hs).1
    refine ⟨hstop, List.pairwise_map.mpr (hasc.imp_of_mem ?apart), ?taken, ?outside⟩
    case apart =>
      intro a b ha _ hab
      rw [← hstop a ha]
      exact hab
    case taken =>
      intro i x k hm
      obtain ⟨s, hs, he⟩ := List.mem_map.mp hm
      obtain ⟨rfl, rfl, rfl⟩ : s.start = i ∧ s.text = x ∧ s.kind = k := by simpa using he
      exact ⟨Nat.zero_le _, (hdel s hs).2⟩
    case outside =>
      intro i _ hi
      refine hcomplete i fun s hs => ?_
      rw [hstop s hs]
      exact hi _ _ _ (List.mem_map_of_mem hs)

/-- An opener inside an opener, one whose closer would share a brace with it, and one that is never
closed. -/
example : (findTags "\x7b\x7b% a %\x7d\x7b%\x7d \x7b# b #\x7d".toList).map
    (fun s => (s.start, s.stop, s.kind)) = [(1, 8, .tag), (12, 19, .comment)] := by decide +kernel

end TemplateGuard
