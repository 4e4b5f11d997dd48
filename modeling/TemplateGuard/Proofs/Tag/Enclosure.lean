import Mathlib.Data.Set.List
import TemplateGuard.Proofs.Tag.WrappedSearch
import TemplateGuard.Tag.Enclosed

namespace TemplateGuard

theorem BeginsAt.getElem? {word t : Text} {i d : Nat} (h : BeginsAt word t i)
    (hd : d < word.length) : t[i + d]? = word[d]? := by
  obtain ⟨rest, hr⟩ := h
  rw [← List.getElem?_drop, ← hr, List.getElem?_append_left hd]

theorem infix_of_getElem? {t : Text} {i : Nat} {a b c : Char} (ha : t[i]? = some a)
    (hb : t[i + 1]? = some b) (hc : t[i + 2]? = some c) : [a, b, c] <:+: t := by
  have next : ∀ {j : Nat} {x : Char}, t[j]? = some x → t.drop j = x :: t.drop (j + 1) := by
    intro j x hx
    obtain ⟨hj, rfl⟩ := List.getElem?_eq_some_iff.mp hx
    exact List.drop_eq_getElem_cons hj
  have hp : [a, b, c] <+: t.drop i := ⟨t.drop (i + 3), by rw [next ha, next hb, next hc]; rfl⟩
  exact hp.isInfix.trans (List.drop_suffix i t).isInfix

theorem ne_of_getElem? {t : Text} {i j : Nat} {c d : Char} (hi : t[i]? = some c)
    (hj : t[j]? = some d) (hcd : c ≠ d) : i ≠ j := by
  rintro rfl
  exact hcd (Option.some.inj (hi.symm.trans hj))

theorem exists_commentEnd_of_trimLeft {u : Text} (h : ['*', '/'] <+: u.trimLeft) :
    ∃ ws, Blank ws ∧ Wrapped.commentEnd ws <+: u := by
  obtain ⟨rest, hr⟩ := h
  refine ⟨u.takeWhile isBlank, Blank.of_takeWhile u, rest, ?_⟩
  rw [Wrapped.commentEnd, List.append_assoc, hr, Text.trimLeft, List.takeWhile_append_dropWhile]

theorem exists_opener_of_trimRight {u : Text} (h : ['*', '/'] <+: u.trimRight.reverse) :
    ∃ ws, Blank ws ∧ ['/', '*'] ++ ws <:+ u := by
  have hrev : u.trimRight.reverse = Text.trimLeft u.reverse := List.reverse_reverse _
  rw [hrev] at h
  obtain ⟨ws, hw, hp⟩ := exists_commentEnd_of_trimLeft h
  refine ⟨ws.reverse, fun c hc => hw c (List.mem_reverse.mp hc), ?_⟩
  have hs := List.reverse_suffix.mpr hp
  simpa [Wrapped.commentEnd] using hs

namespace TagSpan

variable {t : Text} {s : TagSpan}

theorem exists_of_isEnclosed (h : s.isEnclosed t = true) :
    (∃ ws, Blank ws ∧ ['/', '*'] ++ ws <:+ t.take s.start) ∧
      ∃ ws, Blank ws ∧ Wrapped.commentEnd ws <+: t.drop s.stop := by
  rw [isEnclosed, Bool.and_eq_true, List.isPrefixOf_iff_prefix, List.isPrefixOf_iff_prefix] at h
  obtain ⟨hbefore, hafter⟩ := h
  constructor
  · obtain ⟨ws, hw, hs⟩ := exists_opener_of_trimRight hbefore
    rw [Text.between, ← List.drop_take] at hs
    exact ⟨ws, hw, hs.trans (List.drop_suffix _ _)⟩
  · obtain ⟨ws, hw, hp⟩ := exists_commentEnd_of_trimLeft hafter
    exact ⟨ws, hw, hp.trans (List.take_prefix _ _)⟩

/-- An enclosed tag is the inner tag of a wrapped one. -/
theorem exists_delimits_of_isEnclosed (hs : s.Delimits t) (h : s.isEnclosed t = true) :
    ∃ w : WrappedSpan, w.inner = s ∧ w.Delimits t := by
  obtain ⟨⟨ws, hw, x, hx⟩, tail, htail, hend⟩ := exists_of_isEnclosed h
  obtain ⟨htext, ⟨rest, hrest⟩, j, hj, hstop⟩ := hs
  have hsplit : t = x ++ (['/', '*'] ++ ws ++ s.kind.opener ++ rest) := by
    rw [List.append_assoc _ s.kind.opener, hrest, ← List.append_assoc, hx, List.take_append_drop]
  have hstart : s.start = x.length + 2 + ws.length := by
    have hl := congrArg List.length hrest
    have ht := congrArg List.length hsplit
    have hle := hj.le
    have hjl := hj.begins.length_le
    simp only [List.length_append, List.length_cons, List.length_nil, List.length_drop,
      TagKind.opener, TagKind.closer] at hl ht hjl
    omega
  have hle := hj.le
  refine ⟨⟨x.length, s.stop + tail.length + 2, s⟩, rfl, htext, ⟨ws, hw, ?opens, hstart⟩,
    ⟨by simp only; omega, ⟨?closer, tail, htail, hend, rfl⟩, ?least⟩⟩
  case opens =>
    rw [BeginsAt, hsplit, List.drop_left]
    exact List.prefix_append _ rest
  case closer =>
    have he : s.stop - 2 = j := by omega
    rw [he]
    exact hj.begins
  case least =>
    intro e' stop' h1 h2 hc
    simp only at h1 h2
    exact hj.first (e' - 2) (by omega) (by omega) hc.1

end TagSpan

namespace Wrapped

variable {k : TagKind} {t : Text} {i j e stop : Nat}

theorem OpensAt.opener (h : OpensAt k t i j) : BeginsAt k.opener t j := by
  obtain ⟨ws, -, ⟨rest, hr⟩, rfl⟩ := h
  have hl : (['/', '*'] ++ ws).length = 2 + ws.length := by
    simp
    omega
  refine ⟨rest, ?_⟩
  rw [Nat.add_assoc, ← hl, ← List.drop_drop, ← hr, List.append_assoc _ k.opener, List.drop_left]

/-- What stands from a comment opener up to a tag opener. -/
theorem OpensAt.chars (h : OpensAt k t i j) :
    i + 2 ≤ j ∧ t[i]? = some '/' ∧ t[i + 1]? = some '*' ∧ t[j]? = some '{' ∧
      ∀ l c, i + 2 ≤ l → l < j → t[l]? = some c → isBlank c = true := by
  have hopen : t[j]? = some '{' := h.opener.getElem? (d := 0) (by simp [TagKind.opener])
  obtain ⟨ws, hw, hb, rfl⟩ := h
  have hat : ∀ d, d < ws.length + 4 → t[i + d]? = (['/', '*'] ++ ws ++ k.opener)[d]? := by
    intro d hd
    refine hb.getElem? ?_
    simp [TagKind.opener]
    omega
  refine ⟨by omega, ?_, ?_, ?_, ?_⟩
  · simpa using hat 0 (by omega)
  · simpa using hat 1 (by omega)
  · exact hopen
  · intro l c hl hlt hc
    obtain ⟨d, rfl⟩ := Nat.exists_eq_add_of_le hl
    have hd := hat (2 + d) (by omega)
    rw [← Nat.add_assoc, hc, List.getElem?_append_left (by simp; omega),
      List.getElem?_append_right (by simp)] at hd
    simp only [List.length_cons, List.length_nil, Nat.zero_add, Nat.add_sub_cancel_left] at hd
    exact hw c (List.mem_of_getElem? hd.symm)

/-- What stands from the end of a closer to the end of a comment. -/
theorem CompletesAt.chars (h : CompletesAt k t e stop) (he : 2 ≤ e) :
    ∃ p, stop = p + 2 ∧ e ≤ p ∧ t[e - 1]? = some '}' ∧ t[p]? = some '*' ∧ t[p + 1]? = some '/' ∧
      ∀ l c, e ≤ l → l < p → t[l]? = some c → isBlank c = true := by
  obtain ⟨hc, ws, hw, hb, rfl⟩ := h
  have hat : ∀ d, d < ws.length + 2 → t[e + d]? = (commentEnd ws)[d]? := by
    intro d hd
    exact hb.getElem? (by simpa [commentEnd] using hd)
  refine ⟨e + ws.length, rfl, by omega, ?_, ?_, ?_, ?_⟩
  · have hl := hc.getElem? (d := 1) (by simp [TagKind.closer])
    have heq : e - 2 + 1 = e - 1 := by omega
    rw [heq] at hl
    exact hl
  · simpa [commentEnd] using hat ws.length (by omega)
  · simpa [commentEnd, Nat.add_assoc] using hat (ws.length + 1) (by omega)
  · intro l c hl hlt hlc
    obtain ⟨d, rfl⟩ := Nat.exists_eq_add_of_le hl
    have hd := hat d (by omega)
    rw [hlc, commentEnd, List.getElem?_append_left (by omega)] at hd
    exact hw c (List.mem_of_getElem? hd.symm)

end Wrapped

namespace WrappedSpan

variable {t : Text}

/-- Wrapped tags whose inner tags follow each other do so themselves, unless the slash that ends the
first comment opens the second one. -/
theorem Delimits.apart (ht : ¬ ['*', '/', '*'] <:+: t) {a b : WrappedSpan} (ha : a.Delimits t)
    (hb : b.Delimits t) (hab : a.inner.stop ≤ b.inner.start) : a.stop ≤ b.start := by
  have hle := ha.closes.le
  obtain ⟨p, hp, hep, hbrace, hstar, hslash, hend⟩ := ha.closes.completes.chars (by omega)
  obtain ⟨hj, hslash', hstar', hopen, hbegin⟩ := hb.opens.chars
  rw [hp]
  -- The closing brace is no blank and the opening one is no part of a comment end.
  have h1 : ¬ (b.start + 2 ≤ a.inner.stop - 1 ∧ a.inner.stop - 1 < b.inner.start) := fun h =>
    absurd (hbegin _ _ h.1 h.2 hbrace) (by decide)
  have h2 : b.start ≠ a.inner.stop - 1 := ne_of_getElem? hslash' hbrace (by decide)
  have h3 : b.start + 1 ≠ a.inner.stop - 1 := ne_of_getElem? hstar' hbrace (by decide)
  have h4 : ¬ (a.inner.stop ≤ b.start ∧ b.start < p) := fun h =>
    absurd (hend _ _ h.1 h.2 hslash') (by decide)
  have h5 : b.start ≠ p := ne_of_getElem? hslash' hstar (by decide)
  have h6 : b.start ≠ p + 1 := by
    intro h
    rw [h] at hstar'
    exact ht (infix_of_getElem? hstar hslash hstar')
  omega

/-- An opening around a tag opener that lies in the inner tag begins in the wrapped tag. -/
theorem Delimits.start_le {w : WrappedSpan} (hw : w.Delimits t) {k : TagKind} {i j : Nat}
    (ho : Wrapped.OpensAt k t i j) (hj : w.inner.start ≤ j) : w.start ≤ i := by
  obtain ⟨hle, hslash, -, -, -⟩ := hw.opens.chars
  obtain ⟨hij, -, hstar, -, hblank⟩ := ho.chars
  have h1 : w.start ≠ i + 1 := ne_of_getElem? hslash hstar (by decide)
  have h2 : ¬ (i + 2 ≤ w.start ∧ w.start < j) := fun h =>
    absurd (hblank _ _ h.1 h.2 hslash) (by decide)
  omega

end WrappedSpan

/-- If every tag of a text is enclosed, the wrapped tags that are found are these tags and no
others, each with the comment around it. -/
theorem inner_findWrapped {t : Text} (ht : ¬ ['*', '/', '*'] <:+: t)
    (h : hasUnwrapped t = false) : (findWrapped t).map WrappedSpan.inner = findTags t := by
  obtain ⟨hasc, hdel, hcomplete⟩ := (findTags_eq_iff t (findTags t)).mp rfl
  have henclosed : ∀ s ∈ findTags t, s.isEnclosed t = true := by
    simpa [hasUnwrapped] using h
  obtain ⟨ws, hws⟩ : findTags t ∈ Set.range
      (List.map fun w : {w : WrappedSpan // w.Delimits t} => w.val.inner) := by
    rw [Set.range_list_map]
    intro s hs
    obtain ⟨w, hi, hw⟩ := TagSpan.exists_delimits_of_isEnclosed (hdel s hs) (henclosed s hs)
    exact ⟨⟨w, hw⟩, hi⟩
  have hinner : (ws.map Subtype.val).map WrappedSpan.inner = findTags t := by
    rw [List.map_map]
    exact hws
  have hfound : findWrapped t = ws.map Subtype.val := by
    refine (findWrapped_eq_iff_delimits t _).mpr ⟨?apart, ?delimits, ?outside⟩
    case apart =>
      rw [← hinner, List.pairwise_map] at hasc
      refine hasc.imp_of_mem fun {a b} ha hb hab => ?_
      obtain ⟨a, -, rfl⟩ := List.mem_map.mp ha
      obtain ⟨b, -, rfl⟩ := List.mem_map.mp hb
      exact a.property.apart ht b.property hab
    case delimits =>
      intro w hw
      obtain ⟨w, -, rfl⟩ := List.mem_map.mp hw
      exact w.property
    case outside =>
      intro i hi k j ho e stop hle hc
      obtain ⟨s, hs, hsj, hjs⟩ : ∃ s ∈ findTags t, s.start ≤ j ∧ j < s.stop := by
        by_contra hno
        refine hcomplete j (fun s hs => ?_) k (e - 2) ho.opener (by omega) hc.1
        by_contra hout
        exact hno ⟨s, hs, by omega, by omega⟩
      obtain ⟨w, hw, rfl⟩ := List.mem_map.mp (hinner ▸ hs)
      obtain ⟨v, -, rfl⟩ := List.mem_map.mp hw
      have hfirst := v.property.start_le ho hsj
      obtain ⟨hij, -⟩ := ho.chars
      have hclose := v.property.closes.le
      obtain ⟨p, hp, hep, -⟩ := v.property.closes.completes.chars (by omega)
      rcases hi _ hw with h1 | h1 <;> omega
  rw [hfound, hinner]

end TemplateGuard
