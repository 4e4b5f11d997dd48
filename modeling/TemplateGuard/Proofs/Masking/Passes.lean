import TemplateGuard.Proofs.Masking.Minting

namespace TemplateGuard

/-- A piece as a part of a word of characters: what is found is hidden. -/
def Piece.cover {α : Type} : Piece α → Cover
  | .plain c => .kept (.char c)
  | .found s _ => .hidden (chars s)

theorem reads_cover {α : Type} (ps : List (Piece α)) : Reads ps (ps.map Piece.cover) := by
  induction ps with
  | nil => exact .nil
  | cons p ps ih =>
    cases p with
    | plain c => exact ih.char c
    | found s v =>
      have hh := ih.hidden (chars s) v
      rwa [render_chars] at hh

theorem uncover_cover {α : Type} (ps : List (Piece α)) :
    uncover (ps.map Piece.cover) = chars (ps.flatMap Piece.source) := by
  induction ps with
  | nil => rfl
  | cons p ps ih =>
    rw [List.map_cons, uncover_cons, ih, List.flatMap_cons, chars_append]
    cases p with
    | plain c => rfl
    | found s v => rfl

theorem hidden_mem_cover {α : Type} {ps : List (Piece α)} {u : Word}
    (h : .hidden u ∈ ps.map Piece.cover) : ∃ s v, u = chars s ∧ .found s v ∈ ps := by
  obtain ⟨p, hp, hu⟩ := List.mem_map.mp h
  cases p with
  | plain c => exact Cover.noConfusion hu
  | found s v => exact ⟨s, v, (Cover.hidden.inj hu).symm, hp⟩

/-- A character that no key holds is a character of the word. -/
theorem exists_split_of_render {c : Char} (hc : ∀ r : Ref, c ∉ r.key) {w : Word} {z x : Text}
    (h : render w = z ++ c :: x) : ∃ u v, w = u ++ .char c :: v ∧ render u = z ∧ render v = x := by
  induction w generalizing z with
  | nil => simp at h
  | cons a w ih =>
    cases a with
    | char d =>
      cases z with
      | nil =>
        obtain ⟨rfl, hx⟩ := List.cons.inj h
        exact ⟨[], w, rfl, rfl, hx⟩
      | cons e z =>
        obtain ⟨rfl, hx⟩ := List.cons.inj h
        obtain ⟨u, v, rfl, rfl, rfl⟩ := ih hx
        exact ⟨.char d :: u, v, rfl, rfl, rfl⟩
    | ref r =>
      rw [render_ref] at h
      rcases List.append_eq_append_iff.mp h with ⟨y, rfl, hy⟩ | ⟨y, hk, hy⟩
      · obtain ⟨u, v, rfl, rfl, rfl⟩ := ih hy
        exact ⟨.ref r :: u, v, rfl, rfl, rfl⟩
      · cases y with
        | nil =>
          obtain ⟨u, v, rfl, hu, rfl⟩ := ih (z := []) hy.symm
          exact ⟨.ref r :: u, v, rfl, by simp [hu, hk], rfl⟩
        | cons d y =>
          obtain ⟨rfl, -⟩ := List.cons.inj hy
          exact absurd (by rw [hk]; simp) (hc r)

theorem cut_key (r : Ref) (t : Text) :
    Tag.pattern.cut (r.key ++ t) = r.key.map .plain ++ Tag.pattern.cut t := by
  refine Pattern.cut_append_of_none _ _ _ fun y z he hz => ?_
  obtain ⟨c, z, rfl⟩ := List.exists_cons_of_ne_nil hz
  have hm : c ∈ r.key := by rw [he]; simp
  exact Tag.pattern_cons_of_ne (fun e => r.not_mem_key (by decide) (e ▸ hm)) _

/-- A tag at the head of a word's text is the text of the word's head. -/
theorem exists_tag_of_render {c : Char} {w : Word} {m : Taken TagKind}
    (h : Tag.pattern (c :: render w) = some m) :
    ∃ u v, c = '{' ∧ w = u ++ .char '}' :: v ∧
      Tag.pattern.cut (c :: render w) =
        .found (render (.char '{' :: (u ++ [.char '}']))) m.value ::
          Tag.pattern.cut (render v) := by
  obtain ⟨s, x, he, -, hs⟩ := Tag.exists_isTag h
  have hf : Tag.pattern.cut (s ++ x) = .found s m.value :: Tag.pattern.cut x :=
    Pattern.cut_found _ hs.ne_nil (Tag.pattern_append hs x)
  obtain ⟨body, hb, -⟩ := hs
  have hs' : s = '{' :: ((m.value.openMark :: body ++ [m.value.closeMark]) ++ ['}']) := by
    simp [hb, TagKind.opener, TagKind.closer]
  have he' : c :: render w =
      '{' :: ((m.value.openMark :: body ++ [m.value.closeMark]) ++ '}' :: x) := by
    rw [he, hs']
    simp
  obtain ⟨rfl, ht⟩ := List.cons.inj he'
  obtain ⟨u, v, rfl, hu, rfl⟩ :=
    exists_split_of_render (fun r => r.not_mem_key (by decide)) ht
  have hr : render (.char '{' :: (u ++ [.char '}'])) = s := by
    rw [hs', ← hu]
    simp
  exact ⟨u, v, rfl, rfl, by rw [he, hf, hr]⟩

/-- The tags in the text of a word are stretches of the word. -/
theorem exists_reads (w : Word) :
    ∃ qs, Reads (Tag.pattern.cut (render w)) qs ∧ uncover qs = w ∧
      ∀ u, .hidden u ∈ qs → ∃ m, u = .char '{' :: (m ++ [.char '}']) := by
  induction hw : w.length using Nat.strongRecOn generalizing w with
  | ind n ih =>
    match w with
    | [] => exact ⟨[], .nil, rfl, by simp⟩
    | .ref r :: w =>
      obtain ⟨qs, hr, hu, hq⟩ := ih w.length (by simp [← hw]) w rfl
      refine ⟨.kept (.ref r) :: qs, ?_, ?_, by simpa using hq⟩
      · rw [render_ref, cut_key]
        exact hr.ref r
      · simp [uncover_cons, Cover.word, hu]
    | .char c :: w =>
      cases hp : Tag.pattern (c :: render w) with
      | none =>
        obtain ⟨qs, hr, hu, hq⟩ := ih w.length (by simp [← hw]) w rfl
        refine ⟨.kept (.char c) :: qs, ?_, ?_, by simpa using hq⟩
        · rw [render_char, Pattern.cut_cons_of_none _ hp]
          exact hr.char c
        · simp [uncover_cons, Cover.word, hu]
      | some m =>
        obtain ⟨u, v, rfl, rfl, hc⟩ := exists_tag_of_render hp
        obtain ⟨qs, hr, hv, hq⟩ := ih v.length (by simp [← hw]; omega) v rfl
        refine ⟨.hidden (.char '{' :: (u ++ [.char '}'])) :: qs, ?_,
          by simp [uncover_cons, Cover.word, hv], ?_⟩
        · rw [render_char, hc]
          exact hr.hidden _ _
        · intro z hz
          rcases List.mem_cons.mp hz with hz | hz
          · exact ⟨u, Cover.hidden.inj hz⟩
          · exact hq z hz

theorem walled_chars {a b : Char} (ha : a ∉ marker) (hb : b ∉ marker) (m : Word) :
    Walled (.char a :: (m ++ [.char b])) := ⟨_, m, _, rfl, isWall_char ha, isWall_char hb⟩

/-- What a first pass records is a ledger, if it hides wrapped tags of a text. -/
theorem ledger_of_first {n : Nat} {ps : List Cover} {t : Text} (ht : ¬ marker <:+: t)
    (hps : uncover ps = chars t)
    (hp : ∀ u, .hidden u ∈ ps → ∃ s, u = chars ('/' :: (s ++ ['/']))) :
    Ledger (entries .wrapped n ps) := by
  refine ⟨fun _ he _ he' hr => entries_unique he he' hr, ?clean, ?walled, ?nested⟩
  case clean =>
    intro e he
    have hc : Clean (uncover ps) := hps ▸ clean_chars ht
    exact hc.of_stretch (infix_of_hidden (of_mem_entries he).2.2.2)
  case walled =>
    intro e he
    obtain ⟨s, hs⟩ := hp _ (of_mem_entries he).2.2.2
    rw [hs, chars_cons, chars_append]
    exact walled_chars (by decide) (by decide) _
  case nested =>
    intro e he r hr
    obtain ⟨s, hs⟩ := hp _ (of_mem_entries he).2.2.2
    rw [hs] at hr
    exact absurd hr (ref_not_mem_chars r _)

/-- A second pass over what the first one left extends the ledger, if it hides bare tags. -/
theorem ledger_of_second {n : Nat} {ps qs : List Cover} {t : Text}
    (hl : Ledger (entries .wrapped n ps)) (hc : Clean (mint .wrapped n ps))
    (hs : Stands (entries .wrapped n ps) (mint .wrapped n ps) t)
    (hqs : uncover qs = mint .wrapped n ps)
    (hq : ∀ u, .hidden u ∈ qs → ∃ m, u = .char '{' :: (m ++ [.char '}'])) :
    Ledger (entries .wrapped n ps ++ entries .bare (n + (entries .wrapped n ps).length) qs) := by
  rw [← hqs] at hc hs
  refine hl.extend (fun _ he _ he' => ref_ne_of_kind_ne (by decide) he he')
    (fun _ he _ he' hr => entries_unique he he' hr) ?clean ?walled ?nested
  case clean => exact fun e he => hc.of_stretch (infix_of_hidden (of_mem_entries he).2.2.2)
  case walled =>
    intro e he
    obtain ⟨m, hm⟩ := hq _ (of_mem_entries he).2.2.2
    rw [hm]
    exact walled_chars (by decide) (by decide) _
  case nested =>
    intro e he r hr
    obtain ⟨hk, hl, -, hm⟩ := of_mem_entries he
    obtain ⟨e', he', rfl⟩ := hs.exists_entry ((infix_of_hidden hm).subset hr)
    obtain ⟨hk', -, hu, -⟩ := of_mem_entries he'
    refine ⟨e', List.mem_append_left _ he', rfl, ?_⟩
    obtain ⟨⟨k, i⟩, w⟩ := e
    obtain ⟨⟨k', j⟩, w'⟩ := e'
    subst hk hk'
    exact Ref.key_length_lt (Nat.le_of_lt (Nat.lt_of_lt_of_le hu hl))

/-- The two passes over a text, as the covers `ps` and `qs` have them, with keys numbered from `n`
on: the first hides the wrapped tags, the second the bare tags of what the first one left. -/
structure Passes (n : Nat) (t : Text) (ps qs : List Cover) : Prop where
  wrapped : Reads (Wrapped.pattern.cut t) ps
  source : uncover ps = chars t
  outer : ∀ u, .hidden u ∈ ps → ∃ s, u = chars ('/' :: (s ++ ['/']))
  bare : Reads (Tag.pattern.cut (render (mint .wrapped n ps))) qs
  between : uncover qs = mint .wrapped n ps
  inner : ∀ u, .hidden u ∈ qs → ∃ m, u = .char '{' :: (m ++ [.char '}'])

/-- The parts that the first pass goes by. -/
def wrappedCovers (t : Text) : List Cover := (Wrapped.pattern.cut t).map Piece.cover

theorem exists_passes (n : Nat) (t : Text) : ∃ qs, Passes n t (wrappedCovers t) qs := by
  obtain ⟨qs, hrq, hqs, hq⟩ := exists_reads (mint .wrapped n (wrappedCovers t))
  refine ⟨qs, reads_cover _, ?_, ?_, hrq, hqs, hq⟩
  · rw [wrappedCovers, uncover_cover, Pattern.sources_cut]
  · intro u hu
    obtain ⟨s, i, rfl, hs⟩ := hidden_mem_cover hu
    obtain ⟨m, rfl⟩ := Wrapped.exists_of_mem_cut hs
    exact ⟨m, rfl⟩

/-- What both passes record. -/
def recorded (n : Nat) (ps qs : List Cover) : List LedgerEntry :=
  entries .wrapped n ps ++ entries .bare (n + (entries .wrapped n ps).length) qs

/-- The word that both passes leave. -/
def masked (n : Nat) (ps qs : List Cover) : Word :=
  mint .bare (n + (entries .wrapped n ps).length) qs

theorem recorded_number {n : Nat} {ps qs : List Cover} {e : LedgerEntry}
    (h : e ∈ recorded n ps qs) :
    n ≤ e.ref.number ∧ e.ref.number < n + (recorded n ps qs).length := by
  rw [recorded, List.length_append]
  rcases List.mem_append.mp h with he | he
  · obtain ⟨-, hl, hu, -⟩ := of_mem_entries he
    omega
  · obtain ⟨-, hl, hu, -⟩ := of_mem_entries he
    omega

theorem recorded_pairwise (n : Nat) (ps qs : List Cover) :
    (recorded n ps qs).Pairwise fun e e' => e.ref ≠ e'.ref :=
  List.pairwise_append.mpr ⟨entries_pairwise _ _ _, entries_pairwise _ _ _,
    fun _ he _ he' => ref_ne_of_kind_ne (by decide) he he'⟩

namespace Passes

variable {n : Nat} {t : Text} {ps qs : List Cover}

/-- What the first pass hides is text. -/
theorem ref_not_mem_outer (h : Passes n t ps qs) {e : LedgerEntry} (he : e ∈ entries .wrapped n ps)
    (r : Ref) : .ref r ∉ e.word := by
  intro hr
  obtain ⟨s, hs⟩ := h.outer _ (of_mem_entries he).2.2.2
  rw [hs] at hr
  exact ref_not_mem_chars r _ hr

/-- What the second pass hides is a stretch of what the first one left. -/
theorem infix_between (h : Passes n t ps qs) {k : KeyKind} {i : Nat} {e : LedgerEntry}
    (he : e ∈ entries k i qs) : e.word <:+: mint .wrapped n ps := by
  rw [← h.between]
  exact infix_of_hidden (of_mem_entries he).2.2.2

theorem clean_between (h : Passes n t ps qs) (ht : ¬ marker <:+: t) :
    Clean (mint .wrapped n ps) := clean_mint (h.source ▸ clean_chars ht) _ _

theorem stands_between (h : Passes n t ps qs) :
    Stands (entries .wrapped n ps) (mint .wrapped n ps) t :=
  Stands.mint (fun _ he => he) (h.source ▸ Stands.chars t)

theorem ledger (h : Passes n t ps qs) (ht : ¬ marker <:+: t) : Ledger (recorded n ps qs) :=
  ledger_of_second (ledger_of_first ht h.source h.outer) (h.clean_between ht) h.stands_between
    h.between h.inner

theorem clean (h : Passes n t ps qs) (ht : ¬ marker <:+: t) : Clean (masked n ps qs) :=
  clean_mint (h.between ▸ h.clean_between ht) _ _

theorem stands (h : Passes n t ps qs) : Stands (recorded n ps qs) (masked n ps qs) t := by
  refine Stands.mint (fun e he => List.mem_append_right _ he) ?_
  rw [h.between]
  exact h.stands_between.mono fun e he => List.mem_append_left _ he

theorem mask_eq {v : Vault} (h : Passes v.counter t ps qs) :
    (v.mask t).1 = ⟨render (masked v.counter ps qs),
      (recorded v.counter ps qs).map LedgerEntry.placeholder⟩ ∧
    (v.mask t).2.placeholders =
      v.placeholders ++ (recorded v.counter ps qs).map LedgerEntry.placeholder ∧
    (v.mask t).2.counter = v.counter + (recorded v.counter ps qs).length := by
  obtain ⟨ht1, hp1, hc1⟩ := v.substitute_eq h.wrapped .wrapped
  obtain ⟨ht2, hp2, hc2⟩ :=
    (v.substitute KeyKind.wrapped.name (Wrapped.pattern.cut t)).2.substitute_eq h.bare .bare
  rw [hc1] at ht2 hp2 hc2
  rw [hp1, List.append_assoc, ← List.map_append] at hp2
  have hm : v.mask t =
      let v2 := ((v.substitute KeyKind.wrapped.name (Wrapped.pattern.cut t)).2.substitute
        KeyKind.bare.name (Tag.pattern.cut (render (mint .wrapped v.counter ps))))
      (⟨v2.1, v2.2.placeholders.drop v.size⟩, v2.2) := by
    rw [← ht1]
    rfl
  rw [hm]
  refine ⟨?_, hp2, ?_⟩
  · simp only [hp2, ht2, Vault.size, List.drop_left]
    rfl
  · simp only [hc2, recorded, List.length_append, Nat.add_assoc]

end Passes

end TemplateGuard
