import TemplateGuard.Proofs.Masking.Hiding

namespace TemplateGuard

/-- The ranges from `i` to `j` and from `k` to `l` lie apart, or one of them holds the other. -/
def Laminar (i j k l : Nat) : Prop := j ≤ k ∨ l ≤ i ∨ (i ≤ k ∧ l ≤ j) ∨ (k ≤ i ∧ j ≤ l)

instance (i j k l : Nat) : Decidable (Laminar i j k l) :=
  inferInstanceAs (Decidable (_ ∨ _ ∨ _ ∨ _))

/-- No tag of the text runs across an end of a wrapped tag. -/
def Nested (t : Text) : Prop :=
  ∀ s ∈ findTags t, ∀ w ∈ findWrapped t, Laminar s.start s.stop w.start w.stop

instance (t : Text) : Decidable (Nested t) :=
  inferInstanceAs (Decidable (∀ s ∈ findTags t, ∀ w ∈ findWrapped t, _))

/-- The matches of two cuts of one text lie apart or in each other. -/
def NestedCuts {α β : Type} (ps : List (Piece α)) (qs : List (Piece β)) : Prop :=
  ∀ a s v b, ps = a ++ .found s v :: b → ∀ c r w d, qs = c ++ .found r w :: d →
    Laminar (a.flatMap Piece.source).length ((a.flatMap Piece.source).length + s.length)
      (c.flatMap Piece.source).length ((c.flatMap Piece.source).length + r.length)

theorem Nested.cuts {t : Text} (h : Nested t) :
    NestedCuts (Tag.pattern.cut t) (Wrapped.pattern.cut t) := by
  intro a s k b hs c r i d hr
  have hm := Piece.mem_located 0 a s k b
  have hm' := Piece.mem_located 0 c r i d
  rw [← hs, Nat.zero_add] at hm
  rw [← hr, Nat.zero_add] at hm'
  exact h _ (List.mem_map_of_mem hm) _ (List.mem_map_of_mem hm')

namespace NestedCuts

variable {α β : Type}

theorem symm {ps : List (Piece α)} {qs : List (Piece β)} (h : NestedCuts ps qs) :
    NestedCuts qs ps := by
  intro c r w d hr a s v b hs
  have hl := h a s v b hs c r w d hr
  unfold Laminar at hl ⊢
  omega

/-- What holds of the whole cuts holds behind a place that both are cut at. -/
theorem rest {x ps : List (Piece α)} {y qs : List (Piece β)}
    (h : NestedCuts (x ++ ps) (y ++ qs))
    (he : x.flatMap Piece.source = y.flatMap Piece.source) : NestedCuts ps qs := by
  intro a s v b hs c r w d hr
  have hl := h (x ++ a) s v b (by rw [hs, List.append_assoc]) (y ++ c) r w d
    (by rw [hr, List.append_assoc])
  have hn := congrArg List.length he
  simp only [List.flatMap_append, List.length_append] at hl
  unfold Laminar at hl ⊢
  omega

/-- A match at the head of a text is not run across, so the other cut ends with it as well. -/
theorem exists_split {q : Pattern β} (hq : q.Proper) {s t : Text} {v : α} {ps : List (Piece α)}
    (h : NestedCuts (.found s v :: ps) (q.cut (s ++ t))) (hn : q (s ++ t) = none) :
    ∃ qs, q.cut (s ++ t) = qs ++ q.cut t ∧ qs.flatMap Piece.source = s := by
  rcases Pattern.cut_append_cases hq s t with hs | ⟨qs, r, w, d, he, hl, hr⟩
  · exact hs
  · have hlam := h [] s v ps rfl qs r w d he
    have hpos : 0 < (qs.flatMap Piece.source).length := by
      have hs : s ≠ [] := by
        intro hs
        rw [hs] at hl
        exact Nat.not_lt_zero _ hl
      obtain ⟨c, s, rfl⟩ := List.exists_cons_of_ne_nil hs
      have hp : q.cut (c :: s ++ t) = .plain c :: q.cut (s ++ t) := Pattern.cut_cons_of_none q hn
      rw [hp] at he
      cases qs with
      | nil => exact absurd (List.cons.inj he).1 (by simp)
      | cons p qs =>
        obtain ⟨rfl, -⟩ := List.cons.inj he
        simp [Piece.source]
    simp only [Laminar, List.flatMap_nil, List.length_nil] at hlam
    omega

end NestedCuts

theorem mint_append (k : KeyKind) (n : Nat) (ps qs : List Cover) :
    mint k n (ps ++ qs) = mint k n ps ++ mint k (n + (entries k n ps).length) qs := by
  induction ps generalizing n with
  | nil => rfl
  | cons p ps ih =>
    cases p with
    | kept x => exact congrArg (x :: ·) (ih n)
    | hidden u =>
      rw [List.cons_append, mint, ih, mint, entries, List.length_cons, List.cons_append,
        Nat.add_right_comm, Nat.add_assoc]

theorem entries_append (k : KeyKind) (n : Nat) (ps qs : List Cover) :
    entries k n (ps ++ qs) = entries k n ps ++ entries k (n + (entries k n ps).length) qs := by
  induction ps generalizing n with
  | nil => rfl
  | cons p ps ih =>
    cases p with
    | kept x => exact ih n
    | hidden u =>
      rw [List.cons_append, entries, ih, entries, List.length_cons, List.cons_append,
        Nat.add_right_comm, Nat.add_assoc]

/-- The word that the first pass leaves of the pieces. -/
def veil (n : Nat) (ps : List (Piece Wrapped.Inside)) : Word :=
  mint .wrapped n (ps.map Piece.cover)

/-- What it records about them. -/
def veiled (n : Nat) (ps : List (Piece Wrapped.Inside)) : List LedgerEntry :=
  entries .wrapped n (ps.map Piece.cover)

@[simp] theorem veil_plain (n : Nat) (c : Char) (ps : List (Piece Wrapped.Inside)) :
    veil n (.plain c :: ps) = .char c :: veil n ps := rfl

@[simp] theorem veil_found (n : Nat) (s : Text) (i : Wrapped.Inside)
    (ps : List (Piece Wrapped.Inside)) :
    veil n (.found s i :: ps) = .ref ⟨.wrapped, n⟩ :: veil (n + 1) ps := rfl

theorem veil_append (n : Nat) (ps qs : List (Piece Wrapped.Inside)) :
    veil n (ps ++ qs) = veil n ps ++ veil (n + (veiled n ps).length) qs := by
  rw [veil, List.map_append, mint_append]
  rfl

theorem veiled_append (n : Nat) (ps qs : List (Piece Wrapped.Inside)) :
    veiled n (ps ++ qs) = veiled n ps ++ veiled (n + (veiled n ps).length) qs := by
  rw [veiled, List.map_append, entries_append]
  rfl

theorem stands_veil (n : Nat) (ps : List (Piece Wrapped.Inside)) :
    Stands (veiled n ps) (veil n ps) (ps.flatMap Piece.source) :=
  Stands.mint (fun _ he => he) (by rw [uncover_cover]; exact .chars _)

/-- What is found begins and ends with a slash, as wrapped tags do. -/
def Slashed (ps : List (Piece Wrapped.Inside)) : Prop :=
  ∀ s i, .found s i ∈ ps → ∃ m, s = '/' :: (m ++ ['/'])

theorem Slashed.exists_head {ps : List (Piece Wrapped.Inside)} (h : Slashed ps) {c : Char}
    (hc : c ≠ '/') {z : Text} (he : ps.flatMap Piece.source = c :: z) :
    ∃ qs, ps = .plain c :: qs ∧ qs.flatMap Piece.source = z := by
  cases ps with
  | nil => exact absurd he (by simp)
  | cons p ps =>
    cases p with
    | plain d =>
      obtain ⟨rfl, hz⟩ := List.cons.inj he
      exact ⟨ps, rfl, hz⟩
    | found s i =>
      obtain ⟨m, rfl⟩ := h s i List.mem_cons_self
      obtain ⟨rfl, -⟩ := List.cons.inj he
      exact absurd rfl hc

theorem Slashed.exists_last {ps : List (Piece Wrapped.Inside)} (h : Slashed ps) {c : Char}
    (hc : c ≠ '/') {z : Text} (he : ps.flatMap Piece.source = z ++ [c]) :
    ∃ qs, ps = qs ++ [.plain c] ∧ qs.flatMap Piece.source = z := by
  rcases List.eq_nil_or_concat' ps with rfl | ⟨qs, p, rfl⟩
  · exact absurd he (by simp)
  · rw [List.flatMap_append, List.flatMap_singleton] at he
    cases p with
    | plain d =>
      obtain ⟨hz, hd⟩ := List.append_inj' he rfl
      obtain rfl := List.singleton_inj.mp hd
      exact ⟨qs, rfl, hz⟩
    | found s i =>
      obtain ⟨m, rfl⟩ := h s i (by simp)
      have hl : qs.flatMap Piece.source ++ ('/' :: m) ++ ['/'] = z ++ [c] := by
        simpa [Piece.source] using he
      obtain ⟨-, hd⟩ := List.append_inj' hl rfl
      exact absurd (List.singleton_inj.mp hd).symm hc

theorem Slashed.of_mem {ps qs : List (Piece Wrapped.Inside)} (h : Slashed ps)
    (hm : ∀ p ∈ qs, p ∈ ps) : Slashed qs := fun s i hs => h s i (hm _ hs)

/-- A tag with keys in the places of the wrapped tags in it is a tag. -/
theorem isTag_veil {k : TagKind} {ps : List (Piece Wrapped.Inside)} (hs : Slashed ps)
    (h : Tag.IsTag k (ps.flatMap Piece.source)) (n : Nat) : Tag.IsTag k (render (veil n ps)) := by
  obtain ⟨body, hb, hu⟩ := h
  have hopen : k.openMark ≠ '/' := by cases k <;> decide
  have hclose : k.closeMark ≠ '/' := by cases k <;> decide
  have he : ps.flatMap Piece.source = '{' :: (k.openMark :: (body ++ [k.closeMark] ++ ['}'])) := by
    rw [hb]
    simp [TagKind.opener, TagKind.closer]
  obtain ⟨p₁, rfl, h₁⟩ := hs.exists_head (by decide) he
  have hs₁ : Slashed p₁ := hs.of_mem fun p hp => List.mem_cons_of_mem _ hp
  obtain ⟨p₂, rfl, h₂⟩ := hs₁.exists_head hopen h₁
  have hs₂ : Slashed p₂ := hs₁.of_mem fun p hp => List.mem_cons_of_mem _ hp
  obtain ⟨p₃, rfl, h₃⟩ := hs₂.exists_last (by decide) h₂
  have hs₃ : Slashed p₃ := hs₂.of_mem fun p hp => List.mem_append_left _ hp
  obtain ⟨ps, rfl, rfl⟩ := hs₃.exists_last hclose h₃
  refine ⟨render (veil n ps), ?_, ?_⟩
  · rw [veil_plain, veil_plain, List.append_assoc, veil_append]
    simp [TagKind.opener, TagKind.closer, veil, mint, Piece.cover]
  · intro hc
    have hv : render (veil n (ps ++ [.plain k.closeMark])) =
        render (veil n ps) ++ [k.closeMark] := by
      rw [veil_append, render_append]
      rfl
    rw [← hv] at hc
    have hsrc := closer_of_mint hc
    rw [List.flatMap_append] at hsrc
    exact hu hsrc

/-- The tag lies in a wrapped tag that the first pass hides, or the second pass finds the tag, with
keys in it that stand for wrapped tags. -/
def Caught (n : Nat) (ps : List (Piece Wrapped.Inside)) (s : Text) (k : TagKind) : Prop :=
  (∃ w i, .found w i ∈ ps ∧ s <:+: w) ∨
  ∃ u, u <:+: veil n ps ∧ Stands (veiled n ps) u s ∧
    .found (render u) k ∈ Tag.pattern.cut (render (veil n ps))

theorem Caught.prepend {n : Nat} {a b : List (Piece Wrapped.Inside)} {s : Text} {k : TagKind}
    (h : Caught (n + (veiled n a).length) b s k)
    (hc : ∃ ps, Tag.pattern.cut (render (veil n (a ++ b))) =
      ps ++ Tag.pattern.cut (render (veil (n + (veiled n a).length) b))) :
    Caught n (a ++ b) s k := by
  rcases h with ⟨w, i, hw, hs⟩ | ⟨u, hu, hs, hm⟩
  · exact Or.inl ⟨w, i, List.mem_append_right a hw, hs⟩
  · obtain ⟨ps, hc⟩ := hc
    refine Or.inr ⟨u, ?_, ?_, ?_⟩
    · rw [veil_append]
      exact hu.trans List.infix_append_right
    · rw [veiled_append]
      exact hs.mono fun e he => List.mem_append_right _ he
    · rw [hc]
      exact List.mem_append_right ps hm

theorem slashed_cut (t : Text) : Slashed (Wrapped.pattern.cut t) :=
  fun _ _ hs => Wrapped.exists_of_mem_cut hs

/-- The second pass finds a tag at the head with keys for the wrapped tags that lie in it. -/
theorem caught_at_head {n : Nat} {a b : List (Piece Wrapped.Inside)} {k : TagKind}
    (hs : Slashed a) (h : Tag.IsTag k (a.flatMap Piece.source)) :
    Tag.pattern.cut (render (veil n (a ++ b))) = .found (render (veil n a)) k ::
      Tag.pattern.cut (render (veil (n + (veiled n a).length) b)) ∧
    Caught n (a ++ b) (a.flatMap Piece.source) k := by
  have hv := isTag_veil hs h n
  have hc : Tag.pattern.cut (render (veil n (a ++ b))) = .found (render (veil n a)) k ::
      Tag.pattern.cut (render (veil (n + (veiled n a).length) b)) := by
    rw [veil_append, render_append]
    exact Pattern.cut_found _ hv.ne_nil (Tag.pattern_append hv _)
  refine ⟨hc, Or.inr ⟨veil n a, ?_, ?_, ?_⟩⟩
  · rw [veil_append]
    exact List.infix_append_left
  · rw [veiled_append]
    exact (stands_veil n a).mono fun e he => List.mem_append_left _ he
  · rw [hc]
    exact List.mem_cons_self

theorem caught_of_nested {t : Text}
    (h : NestedCuts (Tag.pattern.cut t) (Wrapped.pattern.cut t)) (n : Nat) {s : Text} {k : TagKind}
    (hs : .found s k ∈ Tag.pattern.cut t) : Caught n (Wrapped.pattern.cut t) s k := by
  induction ht : t.length using Nat.strong_induction_on generalizing t n with
  | h l ih =>
    cases hm : Tag.pattern t with
    | some m =>
      -- The wrapped tags that begin in a tag at the head end in it.
      obtain ⟨a, b, rfl, hv, ha⟩ := Tag.exists_isTag hm
      have hw : Wrapped.pattern (a ++ b) = none := by
        obtain ⟨d, rfl⟩ := ha.exists_cons
        rfl
      have hc : Tag.pattern.cut (a ++ b) = .found a m.value :: Tag.pattern.cut b :=
        Pattern.cut_found _ ha.ne_nil (hm.trans (congrArg some hv))
      rw [hc] at h hs
      obtain ⟨ps, he, rfl⟩ := h.exists_split Wrapped.pattern_proper hw
      have hps : Slashed ps := (slashed_cut _).of_mem fun p hp => by
        rw [he]
        exact List.mem_append_left _ hp
      obtain ⟨hcut, hhead⟩ := caught_at_head (n := n) (b := Wrapped.pattern.cut b) hps ha
      rw [he] at h ⊢
      rcases List.mem_cons.mp hs with hs | hs
      · obtain ⟨rfl, rfl⟩ := Piece.found.inj hs
        exact hhead
      · have hb : NestedCuts (Tag.pattern.cut b) (Wrapped.pattern.cut b) :=
          h.rest (x := [.found _ m.value]) (by simp [Piece.source])
        have hl : b.length < l := by
          have hp := List.length_pos_of_ne_nil ha.ne_nil
          rw [← ht, List.length_append]
          omega
        exact (ih _ hl hb _ hs rfl).prepend ⟨[_], hcut⟩
    | none =>
      cases hw : Wrapped.pattern t with
      | some m =>
        -- The tags that begin in a wrapped tag at the head end in it.
        obtain ⟨a, b, rfl, hne, hv⟩ := Wrapped.pattern_proper.exists_append hw
        have hc : Wrapped.pattern.cut (a ++ b) = .found a m.value :: Wrapped.pattern.cut b :=
          Pattern.cut_found _ hne hv
        rw [hc] at h ⊢
        obtain ⟨ps, he, hps⟩ := h.symm.exists_split Tag.pattern_proper hm
        rw [he] at h hs
        rcases List.mem_append.mp hs with hs | hs
        · have hsub : s <:+: a := by
            rw [← hps]
            exact List.infix_of_mem_flatten (List.mem_map_of_mem hs)
          exact Or.inl ⟨a, m.value, List.mem_cons_self, hsub⟩
        · have hb : NestedCuts (Tag.pattern.cut b) (Wrapped.pattern.cut b) :=
            h.rest (y := [.found a m.value]) (by simpa [Piece.source] using hps)
          have hl : b.length < l := by
            have hp := List.length_pos_of_ne_nil hne
            rw [← ht, List.length_append]
            omega
          exact Caught.prepend (a := [.found a m.value]) (ih _ hl hb _ hs rfl)
            ⟨(Ref.key ⟨.wrapped, n⟩).map .plain, cut_key _ _⟩
      | none =>
        cases t with
        | nil => simp at hs
        | cons c t =>
          rw [Pattern.cut_cons_of_none _ hm] at h hs
          rw [Pattern.cut_cons_of_none _ hw] at h ⊢
          have hb : NestedCuts (Tag.pattern.cut t) (Wrapped.pattern.cut t) :=
            h.rest (x := [.plain c]) (y := [.plain c]) rfl
          have hs' : .found s k ∈ Tag.pattern.cut t := by simpa using hs
          refine Caught.prepend (a := [.plain c]) (ih t.length (by simp [← ht]) hb n hs' rfl) ?_
          have hn : Tag.pattern (c :: render (veil n (Wrapped.pattern.cut t))) = none :=
            pattern_mint_eq_none (by rw [Pattern.sources_cut, hm])
          exact ⟨[.plain c], Pattern.cut_cons_of_none _ hn⟩

theorem Reads.exists_hidden {α : Type} {ps : List (Piece α)} {qs : List Cover} (h : Reads ps qs)
    {s : Text} {v : α} (hs : .found s v ∈ ps) : ∃ u, .hidden u ∈ qs ∧ render u = s := by
  induction h with
  | nil => simp at hs
  | char c _ ih =>
    obtain ⟨u, hu, hr⟩ := ih (by simpa using hs)
    exact ⟨u, List.mem_cons_of_mem _ hu, hr⟩
  | ref r _ ih =>
    obtain ⟨u, hu, hr⟩ := ih (by simpa using hs)
    exact ⟨u, List.mem_cons_of_mem _ hu, hr⟩
  | hidden w _ _ ih =>
    rcases List.mem_cons.mp hs with he | hs
    · exact ⟨w, List.mem_cons_self, (Piece.found.inj he).1.symm⟩
    · obtain ⟨u, hu, hr⟩ := ih hs
      exact ⟨u, List.mem_cons_of_mem _ hu, hr⟩

theorem exists_entry_of_hidden {k : KeyKind} {n : Nat} {qs : List Cover} {u : Word}
    (h : .hidden u ∈ qs) : ∃ e ∈ entries k n qs, e.word = u := by
  induction qs generalizing n with
  | nil => simp at h
  | cons q qs ih =>
    cases q with
    | kept x => exact ih (by simpa using h)
    | hidden w =>
      rcases List.mem_cons.mp h with hw | hm
      · exact ⟨⟨⟨k, n⟩, w⟩, List.mem_cons_self, (Cover.hidden.inj hw).symm⟩
      · obtain ⟨e, he, hu⟩ := ih hm
        exact ⟨e, List.mem_cons_of_mem _ he, hu⟩

/-- In a nested text every tag lies in the piece that some entry of the passes stands for. -/
theorem Passes.exists_piece_of_tag {n : Nat} {t : Text} {qs : List Cover}
    (h : Passes n t (wrappedCovers t) qs) (ht : ¬ marker <:+: t) (hn : Nested t) {s : TagSpan}
    (hs : s ∈ findTags t) :
    ∃ e ∈ recorded n (wrappedCovers t) qs, ∃ x,
      Stands (recorded n (wrappedCovers t) qs) e.word x ∧ s.text <:+: x := by
  obtain ⟨⟨i, a, k⟩, hm, rfl⟩ := List.mem_map.mp hs
  rcases caught_of_nested hn.cuts n (Piece.found_of_mem_located hm) with
    ⟨w, j, hw, ha⟩ | ⟨u, hu, hus, hf⟩
  · obtain ⟨e, he, hew⟩ := exists_entry_of_hidden (k := .wrapped) (n := n)
      (List.mem_map_of_mem (f := Piece.cover) hw)
    refine ⟨e, List.mem_append_left _ he, w, ?_, ha⟩
    rw [hew]
    exact .chars w
  · obtain ⟨v, hv, hvu⟩ := h.bare.exists_hidden hf
    have hvi : v <:+: mint .wrapped n (wrappedCovers t) := by
      rw [← h.between]
      exact infix_of_hidden hv
    obtain ⟨x, hx, -⟩ := h.stands_between.exists_stretch hvi
    obtain ⟨e, he, hev⟩ := exists_entry_of_hidden (k := .bare)
      (n := n + (entries .wrapped n (wrappedCovers t)).length) hv
    -- Both words have the same text, so restoring it gives what either of them stands for.
    have hE := ledger_of_first ht h.source h.outer (n := n)
    have hxa : x = a :=
      calc x = restore (render v) _ :=
            (hE.restore_eq (.refl _) ((h.clean_between ht).of_stretch hvi) hx).symm
        _ = restore (render u) _ := by rw [hvu]
        _ = a := hE.restore_eq (.refl _) ((h.clean_between ht).of_stretch hu) hus
    refine ⟨e, List.mem_append_right _ he, x, ?_, ?_⟩
    · rw [hev]
      exact hx.mono fun e he => List.mem_append_left _ he
    · rw [hxa]

/-- A tag that runs across the end of a wrapped one is not hidden whole. -/
example : let t := "\x7b\x7b /* \x7b% \x7d\x7d %\x7d */".toList
    ¬ Nested t ∧ (mask t).text = "\x7b\x7b __DJANGO_WRAPPED_0__".toList := by decide +kernel

end TemplateGuard
