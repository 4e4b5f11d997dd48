import TemplateGuard.Proofs.Cutting
import TemplateGuard.Proofs.Masking.Keys

namespace TemplateGuard

/-- A character, or a reference that stands in the text as its key. -/
inductive Atom where
  | char (c : Char)
  | ref (r : Ref)
  deriving DecidableEq, Repr

abbrev Word := List Atom

def Atom.text : Atom → Text
  | .char c => [c]
  | .ref r => r.key

/-- The text that a word stands for. -/
def render (w : Word) : Text := w.flatMap Atom.text

def chars (t : Text) : Word := t.map .char

@[simp] theorem render_nil : render [] = [] := rfl

@[simp] theorem render_char (c : Char) (w : Word) : render (.char c :: w) = c :: render w := rfl

@[simp] theorem render_ref (r : Ref) (w : Word) : render (.ref r :: w) = r.key ++ render w := rfl

@[simp] theorem render_append (u v : Word) : render (u ++ v) = render u ++ render v :=
  List.flatMap_append

@[simp] theorem chars_nil : chars [] = [] := rfl

@[simp] theorem chars_cons (c : Char) (t : Text) : chars (c :: t) = .char c :: chars t := rfl

@[simp] theorem chars_append (s t : Text) : chars (s ++ t) = chars s ++ chars t := List.map_append

@[simp] theorem render_chars (t : Text) : render (chars t) = t := by
  induction t with
  | nil => rfl
  | cons c t ih => rw [chars_cons, render_char, ih]

theorem ref_not_mem_chars (r : Ref) (t : Text) : .ref r ∉ chars t := by simp [chars]

theorem char_mem_chars {c : Char} {t : Text} : .char c ∈ chars t ↔ c ∈ t := by simp [chars]

/-- The characters of the word nowhere spell the reserved marker. -/
def Clean (w : Word) : Prop := ¬ chars marker <:+: w

/-- What does not hold an element lies on one side of it. -/
theorem infix_append_cons_iff {α : Type} {p a b : List α} {x : α} (hx : x ∉ p) (hp : p ≠ []) :
    p <:+: a ++ x :: b ↔ p <:+: a ∨ p <:+: b := by
  constructor
  · rw [List.infix_append_iff_ne_nil, List.infix_cons_iff]
    rintro (h | (h | h) | ⟨l₁, l₂, -, h2, rfl, -, h⟩)
    · exact Or.inl h
    · obtain ⟨c, p, rfl⟩ := List.exists_cons_of_ne_nil hp
      obtain ⟨rfl, -⟩ := List.cons_prefix_cons.mp h
      exact absurd List.mem_cons_self hx
    · exact Or.inr h
    · obtain ⟨c, l₂, rfl⟩ := List.exists_cons_of_ne_nil h2
      obtain ⟨rfl, -⟩ := List.cons_prefix_cons.mp h
      exact absurd (by simp) hx
  · rintro (h | h)
    · exact h.trans List.infix_append_left
    · exact (h.trans (List.infix_cons (List.infix_refl b))).trans List.infix_append_right

/-- An atom that the marker does not hold. -/
def Atom.IsWall (x : Atom) : Prop := x ∉ chars marker

theorem isWall_ref (r : Ref) : (Atom.ref r).IsWall := ref_not_mem_chars r marker

theorem isWall_char {c : Char} (h : c ∉ marker) : (Atom.char c).IsWall :=
  fun hm => h (char_mem_chars.mp hm)

theorem clean_append_cons_iff {u v : Word} {x : Atom} (hx : x.IsWall) :
    Clean (u ++ x :: v) ↔ Clean u ∧ Clean v := by
  rw [Clean, infix_append_cons_iff hx (by simp [marker]), not_or, Clean, Clean]

theorem Clean.of_stretch {u w : Word} (h : Clean w) (hu : u <:+: w) : Clean u :=
  fun hm => h (hm.trans hu)

theorem clean_chars {t : Text} (h : ¬ marker <:+: t) : Clean (chars t) := by
  rintro ⟨u, v, he⟩
  refine h ⟨render u, render v, ?_⟩
  rw [← render_chars marker, ← render_append, ← render_append, he, render_chars]

/-- Characters that no underscores stand side by side among are characters of the word, apart from
the last one, which may begin a key. -/
theorem chars_prefix_of_render {p : Text} {d : Char} {w : Word} (hp : (p ++ [d]).IsChain Spaced)
    (h : p ++ [d] <+: render w) : chars p <+: w := by
  induction p generalizing w with
  | nil => exact List.nil_prefix
  | cons c p ih =>
    cases w with
    | nil => simp at h
    | cons x w =>
      cases x with
      | char c' =>
        obtain ⟨rfl, ht⟩ := List.cons_prefix_cons.mp h
        exact List.cons_prefix_cons.mpr ⟨rfl, ih hp.tail ht⟩
      | ref r =>
        -- A key would begin with two underscores.
        rw [render_ref, Ref.key_eq] at h
        obtain ⟨rfl, ht⟩ := List.cons_prefix_cons.mp h
        obtain ⟨e, l, he⟩ := List.exists_cons_of_ne_nil (l := p ++ [d]) (by simp)
        rw [List.append_eq, he] at ht
        rw [List.cons_append, he] at hp
        exact absurd ⟨rfl, (List.cons_prefix_cons.mp ht).1⟩ (List.isChain_cons_cons.mp hp).1

theorem Ref.exists_stem (r : Ref) : ∃ l, r.stem = marker ++ [r.kind.letter] ++ l := by
  obtain ⟨l, hl⟩ := r.kind.name_eq
  exact ⟨l ++ ['_'] ++ Nat.toDigits 10 r.number, by simp [stem, hl]⟩

/-- The text of a clean word begins neither with a stem nor with one underscore before a stem: a key
begins with two. -/
theorem Clean.no_stem_at_head {w : Word} (h : Clean w) (r : Ref) :
    ¬ r.stem <+: render w ∧ ¬ '_' :: r.stem <+: render w := by
  obtain ⟨l, hl⟩ := r.exists_stem
  have hc : (('_' :: marker ++ [r.kind.letter]) ++ l ++ ['_']).IsChain Spaced := by
    have hs := r.spaced_stem
    rwa [hl] at hs
  have hm := hc.left_of_append.left_of_append
  constructor
  · intro hs
    have hp : marker ++ [r.kind.letter] <+: render w := by
      rw [hl] at hs
      exact (List.prefix_append _ l).trans hs
    exact h (chars_prefix_of_render hm.tail hp).isInfix
  · intro hs
    have hp : '_' :: marker ++ [r.kind.letter] <+: render w := by
      rw [hl] at hs
      exact (List.prefix_append _ l).trans hs
    have hw := chars_prefix_of_render hm hp
    exact h ((List.infix_cons (List.infix_refl _)).trans hw.isInfix)

theorem not_key_before_char {c : Char} {w : Word} (h : Clean w) (r : Ref) :
    ¬ r.key <+: c :: render w := by
  rw [Ref.key_eq]
  intro hk
  obtain ⟨z, hz⟩ := (List.cons_prefix_cons.mp hk).2
  exact (h.no_stem_at_head r).2 ⟨['_', '_'] ++ z, by simpa using hz⟩

theorem not_key_inside {w : Word} (h : Clean w) {r r' : Ref} {y z : Text} (hy : y ≠ [])
    (hz : z ≠ []) (he : r'.key = y ++ z) : ¬ r.key <+: z ++ render w := by
  intro hk
  rcases Ref.stem_of_key_inside hy hz he hk with hs | hs
  · exact (h.no_stem_at_head r).1 hs
  · exact (h.no_stem_at_head r).2 hs

/-- The word with the reference's place taken by what it stands for. -/
def subst (r : Ref) (a : Word) (w : Word) : Word := w.flatMap fun x => if x = .ref r then a else [x]

theorem literal_eq_none_iff {key t : Text} : Text.literal key t = none ↔ ¬ key <+: t := by
  simp [Text.literal]

theorem literal_append (key t : Text) : Text.literal key (key ++ t) = some ⟨key.length, ()⟩ := by
  simp [Text.literal]

/-- Replacing a key in the text of a clean word is substituting in the word. -/
theorem replace_key (r : Ref) (a : Word) {w : Word} (h : Clean w) :
    (Text.literal r.key).replace (fun _ _ => render a) (render w) = render (subst r a w) := by
  induction w with
  | nil => rfl
  | cons x w ih =>
    have hw : Clean w := h.of_stretch (List.infix_cons (List.infix_refl w))
    cases x with
    | char c =>
      have hn := literal_eq_none_iff.mpr (not_key_before_char (c := c) hw r)
      rw [render_char, Pattern.replace_cons_of_none _ _ hn, ih hw]
      rfl
    | ref r' =>
      by_cases hr : r' = r
      · subst hr
        rw [render_ref, Pattern.replace_found _ _ r'.key_ne_nil (literal_append _ _), ih hw]
        simp [subst]
      · have hn : ∀ y z, r'.key = y ++ z → z ≠ [] →
            Text.literal r.key (z ++ render w) = none := by
          intro y z he hz
          refine literal_eq_none_iff.mpr fun hk => ?_
          by_cases hy : y = []
          · subst hy
            rw [List.nil_append] at he
            rw [← he] at hk
            exact hr (Ref.eq_of_key_at_head hk).symm
          · exact not_key_inside hw hy hz he hk
        have hs : subst r a (.ref r' :: w) = .ref r' :: subst r a w := by simp [subst, hr]
        rw [render_ref, Pattern.replace_append_of_none _ _ _ _ hn, ih hw, hs, render_ref]

theorem replace_of_not_hasInfix {key : Text} (new : Text) {t : Text}
    (h : t.hasInfix key = false) : (Text.literal key).replace (fun _ _ => new) t = t := by
  induction t with
  | nil => rfl
  | cons c t ih =>
    rw [Text.hasInfix, Bool.or_eq_false_iff] at h
    have hn : Text.literal key (c :: t) = none := by simp [Text.literal, h.1]
    rw [Pattern.replace_cons_of_none _ _ hn, ih h.2]

theorem expand_eq {p : Placeholder} (hk : p.key ≠ []) (t : Text) :
    p.expand t = (Text.literal p.key).replace (fun _ _ => p.covered) t := by
  unfold Placeholder.expand
  split
  · rw [Text.replaceAll, if_neg (by simpa using hk)]
  · next h => rw [replace_of_not_hasInfix _ (by simpa using h)]

/-- A word that begins and ends with walls, so that nothing is spelled across its ends. -/
def Walled (a : Word) : Prop := ∃ x m y, a = x :: (m ++ [y]) ∧ x.IsWall ∧ y.IsWall

theorem clean_insert {u a v : Word} (ha : Walled a) (hu : Clean u) (hc : Clean a) (hv : Clean v) :
    Clean (u ++ a ++ v) := by
  obtain ⟨x, m, y, rfl, hx, hy⟩ := ha
  have hm : Clean m := hc.of_stretch ⟨[x], [y], rfl⟩
  have he : u ++ x :: (m ++ [y]) ++ v = u ++ x :: (m ++ y :: v) := by simp
  rw [he, clean_append_cons_iff hx, clean_append_cons_iff hy]
  exact ⟨hu, hm, hv⟩

theorem clean_subst {r : Ref} {a w : Word} (ha : Walled a) (hc : Clean a) (hw : Clean w) :
    Clean (subst r a w) := by
  -- The part before the place reached is kept along, since a marker could begin in it.
  suffices h : ∀ u, Clean (u ++ w) → Clean (u ++ subst r a w) from h [] hw
  clear hw
  intro u hw
  induction w generalizing u with
  | nil => exact hw
  | cons x w ih =>
    by_cases hx : x = .ref r
    · subst hx
      obtain ⟨hu, hv⟩ := (clean_append_cons_iff (isWall_ref r)).mp hw
      have hs := clean_insert ha hu hc (ih [] hv)
      simpa [subst] using hs
    · have hs := ih (u ++ [x]) (by simpa using hw)
      simpa [subst, hx] using hs

theorem ref_mem_subst {r r' : Ref} {a w : Word} (h : .ref r' ∈ subst r a w) :
    (.ref r' ∈ w ∧ r' ≠ r) ∨ .ref r' ∈ a := by
  obtain ⟨x, hx, hm⟩ := List.mem_flatMap.mp h
  split at hm
  · exact Or.inr hm
  · next hn =>
    obtain rfl := List.mem_singleton.mp hm
    exact Or.inl ⟨hx, fun e => hn (e ▸ rfl)⟩

end TemplateGuard
