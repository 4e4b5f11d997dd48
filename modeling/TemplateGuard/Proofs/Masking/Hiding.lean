import TemplateGuard.Format.Guarded
import TemplateGuard.Proofs.Masking.Passes

namespace TemplateGuard

theorem infix_of_append_of_not_mem {c : Char} {l k r : Text} (hc : c ∉ k)
    (h : c :: l <:+: k ++ r) : c :: l <:+: r := by
  induction k with
  | nil => exact h
  | cons d k ih =>
    rw [List.cons_append, List.infix_cons_iff, List.cons_prefix_cons] at h
    rcases h with ⟨rfl, -⟩ | h
    · exact absurd List.mem_cons_self hc
    · exact ih (fun hm => hc (List.mem_cons_of_mem d hm)) h

section Left

variable {α : Type} {ps : List (Piece α)} {kind : KeyKind} {n : Nat}

/-- A character that no key holds is left from the text. -/
theorem exists_plain_of_mint {c : Char} (hc : ∀ r : Ref, c ∉ r.key) {z : Text}
    (h : render (mint kind n (ps.map Piece.cover)) = c :: z) :
    ∃ qs, ps = .plain c :: qs ∧ render (mint kind n (qs.map Piece.cover)) = z := by
  cases ps with
  | nil => exact absurd h (by simp [mint])
  | cons p ps =>
    cases p with
    | plain d =>
      obtain ⟨rfl, hz⟩ := List.cons.inj h
      exact ⟨ps, rfl, hz⟩
    | found s v =>
      have hk : Ref.key ⟨kind, n⟩ ++ render (mint kind (n + 1) (ps.map Piece.cover)) = c :: z := h
      rw [Ref.key_eq] at hk
      obtain ⟨rfl, -⟩ := List.cons.inj hk
      exact absurd (by simp [Ref.key_eq]) (hc ⟨kind, n⟩)

/-- A closer that a pass leaves stands in the text. -/
theorem closer_of_mint {k : TagKind}
    (h : k.closer <:+: render (mint kind n (ps.map Piece.cover))) :
    k.closer <:+: ps.flatMap Piece.source := by
  have hmark : ∀ r : Ref, k.closeMark ∉ r.key :=
    fun r => r.not_mem_key (by cases k <;> decide)
  have hbrace : ∀ r : Ref, '}' ∉ r.key := fun r => r.not_mem_key (by decide)
  induction ps generalizing n with
  | nil => exact h
  | cons p ps ih =>
    rw [List.flatMap_cons]
    cases p with
    | plain c =>
      have hc : k.closer <:+: c :: render (mint kind n (ps.map Piece.cover)) := h
      rcases List.infix_cons_iff.mp hc with hc | hc
      · obtain ⟨rfl, y, hy⟩ := List.cons_prefix_cons.mp hc
        obtain ⟨qs, rfl, -⟩ := exists_plain_of_mint hbrace hy.symm
        exact ⟨[], qs.flatMap Piece.source, rfl⟩
      · exact (ih hc).trans List.infix_append_right
    | found s v =>
      have hk : k.closer <:+:
          Ref.key ⟨kind, n⟩ ++ render (mint kind (n + 1) (ps.map Piece.cover)) := h
      exact (ih (infix_of_append_of_not_mem (hmark _) hk)).trans List.infix_append_right

/-- Where no tag begins in the text, none begins in what a pass leaves of it. -/
theorem pattern_mint_eq_none {c : Char}
    (h : Tag.pattern (c :: ps.flatMap Piece.source) = none) :
    Tag.pattern (c :: render (mint kind n (ps.map Piece.cover))) = none := by
  cases hp : Tag.pattern (c :: render (mint kind n (ps.map Piece.cover))) with
  | none => rfl
  | some m =>
    obtain ⟨k, rest, he, hk⟩ := (Tag.pattern_isSome_iff _).mp (by rw [hp]; rfl)
    obtain ⟨rfl, ht⟩ := List.cons.inj he
    have hmark : ∀ r : Ref, k.openMark ∉ r.key :=
      fun r => r.not_mem_key (by cases k <;> decide)
    obtain ⟨qs, rfl, rfl⟩ := exists_plain_of_mint hmark ht
    have hs : (Tag.pattern ('{' :: (Piece.plain k.openMark :: qs).flatMap Piece.source)).isSome :=
      (Tag.pattern_isSome_iff _).mpr ⟨k, qs.flatMap Piece.source, rfl, closer_of_mint hk⟩
    rw [h] at hs
    exact absurd hs (by simp)

end Left

theorem hasTags_append_of_not_mem {s : Text} (hs : '{' ∉ s) (t : Text) :
    hasTags (s ++ t) = hasTags t := by
  induction s with
  | nil => rfl
  | cons c s ih =>
    obtain ⟨hc, hs⟩ := not_or.mp (mt List.mem_cons.mpr hs)
    have hn : Tag.pattern (c :: (s ++ t)) = none := Tag.pattern_cons_of_ne (Ne.symm hc) _
    have he : hasTags (c :: (s ++ t)) = hasTags (s ++ t) := by
      simp [hasTags, Pattern.matchesIn, hn]
    exact he.trans (ih hs)

/-- A pass that hides what the search for tags finds leaves no tag. -/
theorem hasTags_mint (kind : KeyKind) (n : Nat) (t : Text) :
    hasTags (render (mint kind n ((Tag.pattern.cut t).map Piece.cover))) = false := by
  induction t using Pattern.cut_induction Tag.pattern_proper generalizing n with
  | nil => rfl
  | plain c t hn ih =>
    have hc : Tag.pattern (c :: render (mint kind n ((Tag.pattern.cut t).map Piece.cover))) = none :=
      pattern_mint_eq_none (by rw [Pattern.sources_cut, hn])
    have hi : Tag.pattern.matchesIn (render (mint kind n ((Tag.pattern.cut t).map Piece.cover))) =
      false := ih n
    rw [Pattern.cut_cons_of_none _ hn]
    simp [hasTags, Pattern.matchesIn, mint, Piece.cover, hc, hi]
  | found a b v ha hv ih =>
    have hk : '{' ∉ Ref.key ⟨kind, n⟩ := Ref.not_mem_key (by decide) _
    rw [Pattern.cut_found _ ha hv]
    exact (hasTags_append_of_not_mem hk _).trans (ih (n + 1))

/-- A wrapped tag holds a tag. -/
theorem hasTags_of_hasWrapped {t : Text} (h : hasWrapped t = true) : hasTags t = true := by
  obtain ⟨a, b, rfl, -, hp⟩ := (Pattern.matchesIn_iff _ _).mp h
  obtain ⟨m, hm⟩ := Option.isSome_iff_exists.mp hp
  obtain ⟨ws, k, body, tail, rest, -, -, rfl, -⟩ := Wrapped.exists_of_pattern hm
  refine (Pattern.matchesIn_iff _ _).mpr ⟨a ++ ['/', '*'] ++ ws,
    k.opener ++ (body ++ k.closer ++ Wrapped.commentEnd tail ++ rest), by simp, ?_, ?_⟩
  · simp [TagKind.opener]
  · exact (Tag.pattern_isSome_iff _).mpr
      ⟨k, _, rfl, body, Wrapped.commentEnd tail ++ rest, by simp⟩

theorem Vault.hasTags_mask (v : Vault) (t : Text) : hasTags (v.mask t).1.text = false := by
  obtain ⟨ht, -, -⟩ := Vault.substitute_eq (reads_cover (Tag.pattern.cut
    (v.substitute Placeholder.wrappedKind (Wrapped.pattern.cut t)).1)) .bare
    (v.substitute Placeholder.wrappedKind (Wrapped.pattern.cut t)).2
  have hm : (v.mask t).1.text = _ := ht
  rw [hm]
  exact hasTags_mint _ _ _

/-- Where no tag begins, neither search finds anything. -/
theorem find_eq_nil {t : Text} (h : hasTags t = false) : findTags t = [] ∧ findWrapped t = [] := by
  have hw : hasWrapped t = false := by
    rw [← Bool.not_eq_true] at h ⊢
    exact mt hasTags_of_hasWrapped h
  constructor
  · rw [findTags, (Pattern.locate_eq_nil_iff Tag.pattern_proper t).mpr h, List.map_nil]
  · rw [findWrapped, (Pattern.locate_eq_nil_iff Wrapped.pattern_proper t).mpr hw, List.map_nil]

/-- Whatever text is masked with whatever vault, what comes out holds neither tags nor wrapped tags.
So where tags are masked, formatting is one call of the formatter, with a text without tags, and
something made of its answer. -/
theorem mask_hides_tags (v : Vault) (t : Text) :
    findTags (v.mask t).1.text = [] ∧ findWrapped (v.mask t).1.text = [] ∧
    ∀ kind : ParserKind, kind.masksTags = true →
      hasTags (mask t).text = false ∧
      ∃ finish : Except Failure Text → Text × List Event,
        ∀ (m : Type → Type) [Monad m] (format : Formatter m), formatWithTags format kind t =
          (do
            let answer ← format (mask t).text kind.name
            return finish answer) := by
  obtain ⟨ht, hw⟩ := find_eq_nil (v.hasTags_mask t)
  refine ⟨ht, hw, fun kind hk => ⟨Vault.hasTags_mask {} t, ?_⟩⟩
  have hp : Guarded.prepare kind t = mask t := if_pos hk
  let finish (answer : Except Failure Text) : Text × List Event :=
    let r := Guarded.finish kind t (mask t) answer
    (r.1, Guarded.announced kind (mask t) ++ r.2)
  refine ⟨finish, fun m _ format => ?_⟩
  rw [formatWithTags, hp]

/-- Hiding a wrapped tag leaves an opener without its closer, and nothing else has one for it. -/
theorem mask_hides_tags_unterminated :
    let t := "\x7b\x7b a /* \x7b# \x7d\x7d #\x7d */ \x7b% b %\x7d \x7b\x7b c".toList
    let v : Vault := { counter := 9 }
    ParserKind.xml.masksTags = true ∧
    (v.mask t).1.text =
      "\x7b\x7b a __DJANGO_WRAPPED_9__ __DJANGO_PLACEHOLDER_10__ \x7b\x7b c".toList ∧
    findTags (v.mask t).1.text = [] ∧ findWrapped (v.mask t).1.text = [] ∧
    hasTags (mask t).text = false ∧
    ∃ finish : Except Failure Text → Text × List Event,
      ∀ (m : Type → Type) [Monad m] (format : Formatter m), formatWithTags format .xml t =
        (do
          let answer ← format (mask t).text ParserKind.xml.name
          return finish answer) := by
  intro t v
  have hk : ParserKind.xml.masksTags = true := rfl
  obtain ⟨ht, hw, h⟩ := mask_hides_tags v t
  exact ⟨hk, by decide +kernel, ht, hw, h .xml hk⟩

end TemplateGuard
