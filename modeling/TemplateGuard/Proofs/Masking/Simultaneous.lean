import TemplateGuard.Proofs.Masking.RoundTrip

namespace TemplateGuard

/-- Takes a key at the head of a text and reads what it covers. -/
def keyAt (ps : List Placeholder) : Pattern Text := fun t =>
  (ps.find? fun p => p.key.isPrefixOf t).map fun p => ⟨p.key.length, p.covered⟩

/-- Puts what every key covers in its place, in one pass from left to right. -/
def expandOnce (ps : List Placeholder) (t : Text) : Text :=
  (keyAt ps).replace (fun _ covered => covered) t

/-- The piece of source text that a key stands for: what it covers, with the keys in that expanded. -/
def Placeholder.source (ps : List Placeholder) (p : Placeholder) : Text := expandOnce ps p.covered

/-- Chunks of text with something for each placeholder between them. -/
def interleave (f : Placeholder → Text) (c : Text) (kcs : List (Placeholder × Text)) : Text :=
  c ++ kcs.flatMap fun q => f q.1 ++ q.2

theorem interleave_cons (f : Placeholder → Text) (c : Text) (q : Placeholder × Text)
    (kcs : List (Placeholder × Text)) :
    interleave f c (q :: kcs) = c ++ (f q.1 ++ interleave f q.2 kcs) := by
  simp [interleave]

/-- Every entry stands for a piece of one of the texts, and what its word refers to has a word of
characters alone. -/
structure Sourced (E : List LedgerEntry) (ts : List Text) : Prop where
  shallow : ∀ e ∈ E, ∀ r, .ref r ∈ e.word → ∃ e' ∈ E, e'.ref = r ∧ ∀ r', .ref r' ∉ e'.word
  piece : ∀ e ∈ E, ∃ t ∈ ts, ∃ s, Stands E e.word s ∧ s <:+: t

namespace Sourced

theorem empty : Sourced [] [] := ⟨by simp, by simp⟩

theorem append {E E' : List LedgerEntry} {ts ts' : List Text} (h : Sourced E ts)
    (h' : Sourced E' ts') : Sourced (E ++ E') (ts ++ ts') := by
  constructor
  · intro e he r hr
    rcases List.mem_append.mp he with he | he
    · obtain ⟨e', he', hs⟩ := h.shallow e he r hr
      exact ⟨e', List.mem_append_left _ he', hs⟩
    · obtain ⟨e', he', hs⟩ := h'.shallow e he r hr
      exact ⟨e', List.mem_append_right _ he', hs⟩
  · intro e he
    rcases List.mem_append.mp he with he | he
    · obtain ⟨t, ht, s, hs, hi⟩ := h.piece e he
      exact ⟨t, List.mem_append_left _ ht, s, hs.mono fun e he => List.mem_append_left _ he, hi⟩
    · obtain ⟨t, ht, s, hs, hi⟩ := h'.piece e he
      exact ⟨t, List.mem_append_right _ ht, s, hs.mono fun e he => List.mem_append_right _ he, hi⟩

end Sourced

theorem Passes.sourced {n : Nat} {t : Text} {ps qs : List Cover} (h : Passes n t ps qs) :
    Sourced (recorded n ps qs) [t] := by
  constructor
  · intro e he r hr
    rcases List.mem_append.mp he with he | he
    · exact absurd hr (h.ref_not_mem_outer he r)
    · obtain ⟨e', he', hk⟩ := h.stands_between.exists_entry ((h.infix_between he).subset hr)
      exact ⟨e', List.mem_append_left _ he', hk, h.ref_not_mem_outer he'⟩
  · intro e he
    refine ⟨t, List.mem_singleton_self t, ?_⟩
    rcases List.mem_append.mp he with he | he
    · have hi : e.word <:+: chars t := by
        rw [← h.source]
        exact infix_of_hidden (of_mem_entries he).2.2.2
      exact (Stands.chars t).exists_stretch hi
    · obtain ⟨s, hs, hi⟩ := h.stands_between.exists_stretch (h.infix_between he)
      exact ⟨s, hs.mono fun e he => List.mem_append_left _ he, hi⟩

theorem Vault.Holds.maskAll_sourced {v : Vault} {E : List LedgerEntry} {us ts : List Text}
    (hv : v.Holds E) (hE : Sourced E us) (ht : ∀ t ∈ ts, ¬ marker <:+: t) :
    ∃ E', (v.maskAll ts).2.Holds E' ∧ Sourced E' (us ++ ts) := by
  induction ts generalizing v E us with
  | nil => exact ⟨E, hv, by simpa using hE⟩
  | cons t ts ih =>
    obtain ⟨qs, h⟩ := exists_passes v.counter t
    have hv1 := hv.passes h (ht t List.mem_cons_self)
    obtain ⟨E2, hv2, hE2⟩ := ih hv1 (hE.append h.sourced) fun u hu => ht u (List.mem_cons_of_mem t hu)
    exact ⟨E2, hv2, by simpa using hE2⟩

theorem keyAt_eq_none {E : List LedgerEntry} {t : Text} (h : ∀ r : Ref, ¬ r.key <+: t) :
    keyAt (E.map LedgerEntry.placeholder) t = none := by
  have hf : (E.map LedgerEntry.placeholder).find? (fun p => p.key.isPrefixOf t) = none := by
    rw [List.find?_eq_none]
    intro p hp
    obtain ⟨e, -, rfl⟩ := List.mem_map.mp hp
    have hn := h e.ref
    simpa [LedgerEntry.placeholder] using hn
  rw [keyAt, hf, Option.map_none]

/-- No other key begins where a key does, so the key that is found is the one that stands there. -/
theorem keyAt_key {E : List LedgerEntry} (hE : Ledger E) {e : LedgerEntry} (he : e ∈ E) (t : Text) :
    keyAt (E.map LedgerEntry.placeholder) (e.ref.key ++ t) =
      some ⟨e.ref.key.length, render e.word⟩ := by
  have hf : ((E.map LedgerEntry.placeholder).find?
      fun p => p.key.isPrefixOf (e.ref.key ++ t)).isSome := by
    rw [List.find?_isSome]
    exact ⟨e.placeholder, List.mem_map_of_mem he, by simp [LedgerEntry.placeholder]⟩
  obtain ⟨p, hp⟩ := Option.isSome_iff_exists.mp hf
  obtain ⟨e', he', rfl⟩ := List.mem_map.mp (List.mem_of_find?_eq_some hp)
  have hk : e'.ref.key <+: e.ref.key ++ t := by
    have hk := List.find?_some hp
    simpa [LedgerEntry.placeholder] using hk
  obtain rfl := hE.unique e' he' e he (Ref.eq_of_key_at_head hk)
  rw [keyAt, hp, Option.map_some]
  rfl

/-- One pass over the text of a clean word whose references lead to words of characters alone gives
what the word stands for. -/
theorem expandOnce_render {E : List LedgerEntry} (hE : Ledger E) {w : Word} {s : Text}
    (hw : Clean w) (hn : ∀ r, .ref r ∈ w → ∃ e ∈ E, e.ref = r ∧ ∀ r', .ref r' ∉ e.word)
    (hs : Stands E w s) : expandOnce (E.map LedgerEntry.placeholder) (render w) = s := by
  induction hs with
  | nil => rfl
  | @char c w t _ ih =>
    have hw' : Clean w := hw.of_stretch (List.infix_cons (List.infix_refl w))
    have hi := ih hw' fun r hr => hn r (List.mem_cons_of_mem _ hr)
    have hk := keyAt_eq_none (E := E) fun r => not_key_before_char (c := c) hw' r
    rw [expandOnce, render_char, Pattern.replace_cons_of_none _ _ hk]
    exact congrArg (c :: ·) hi
  | @ref e s w t he hes _ _ ih =>
    have hw' : Clean w := hw.of_stretch (List.infix_cons (List.infix_refl w))
    have hi := ih hw' fun r hr => hn r (List.mem_cons_of_mem _ hr)
    obtain ⟨e', he', hr, hc⟩ := hn e.ref List.mem_cons_self
    obtain rfl := hE.unique e' he' e he hr
    rw [expandOnce, render_ref,
      Pattern.replace_found _ _ e'.ref.key_ne_nil (keyAt_key hE he _), hes.eq_render hc]
    exact congrArg (render e'.word ++ ·) hi

theorem source_eq {E : List LedgerEntry} {ts : List Text} (hE : Ledger E) (hts : Sourced E ts)
    {e : LedgerEntry} (he : e ∈ E) {s : Text} (hs : Stands E e.word s) :
    e.placeholder.source (E.map LedgerEntry.placeholder) = s :=
  expandOnce_render hE (hE.clean e he) (hts.shallow e he) hs

/-- Chunks without the marker with keys between them are the text of a clean word, which stands for
the chunks with the pieces between them. -/
theorem exists_word_of_interleave {E : List LedgerEntry} {ts : List Text} (hE : Ledger E)
    (hts : Sourced E ts) {c : Text} (hc : ¬ marker <:+: c) (kcs : List (Placeholder × Text))
    (hk : ∀ q ∈ kcs, q.1 ∈ E.map LedgerEntry.placeholder ∧ ¬ marker <:+: q.2) :
    ∃ w, Clean w ∧ render w = interleave Placeholder.key c kcs ∧
      Stands E w (interleave (Placeholder.source (E.map LedgerEntry.placeholder)) c kcs) := by
  induction kcs generalizing c with
  | nil => exact ⟨chars c, clean_chars hc, by simp [interleave], by simpa [interleave] using .chars c⟩
  | cons q kcs ih =>
    obtain ⟨hq, hq'⟩ := hk q List.mem_cons_self
    obtain ⟨w, hw, hr, hs⟩ := ih hq' fun q hm => hk q (List.mem_cons_of_mem _ hm)
    obtain ⟨e, he, hp⟩ := List.mem_map.mp hq
    obtain ⟨t, -, s, hes, -⟩ := hts.piece e he
    refine ⟨chars c ++ .ref e.ref :: w, ?_, ?_, ?_⟩
    · rw [clean_append_cons_iff (isWall_ref e.ref)]
      exact ⟨clean_chars hc, hw⟩
    · rw [interleave_cons, ← hp, render_append, render_chars, render_ref, hr]
      rfl
    · rw [interleave_cons, ← hp, source_eq hE hts he hes]
      exact (Stands.chars c).append (.ref he hes hs)

/-- Whatever texts a vault has masked, every key stands for a piece of one of them, and expanding a
text that is made of its keys and of chunks without the reserved marker puts these pieces in the
places of the keys and changes nothing else, in whatever order the placeholders are given. -/
theorem rehydrate_simultaneous (ts : List Text) (h : ∀ t ∈ ts, t.hasInfix marker = false)
    (c : Text) (kcs : List (Placeholder × Text)) (hc : c.hasInfix marker = false)
    (hk : ∀ q ∈ kcs, q.1 ∈ (({} : Vault).maskAll ts).2.placeholders ∧ q.2.hasInfix marker = false) :
    let v := (({} : Vault).maskAll ts).2
    (∀ p ∈ v.placeholders, ∃ t ∈ ts, p.source v.placeholders <:+: t) ∧
    v.rehydrate (interleave Placeholder.key c kcs) =
      interleave (Placeholder.source v.placeholders) c kcs ∧
    ∀ ps, ps.Perm v.placeholders → restore (interleave Placeholder.key c kcs) ps =
      interleave (Placeholder.source v.placeholders) c kcs := by
  intro v
  have none : ∀ t : Text, t.hasInfix marker = false → ¬ marker <:+: t :=
    fun t => (Text.hasInfix_eq_false_iff t marker).mp
  obtain ⟨E, hv, hE⟩ := Vault.holds_empty.maskAll_sourced .empty fun t ht => none t (h t ht)
  have hp : v.placeholders = E.map LedgerEntry.placeholder := hv.placeholders
  obtain ⟨w, hw, hr, hs⟩ := exists_word_of_interleave hv.ledger hE (none c hc) kcs
    fun q hq => ⟨hp ▸ (hk q hq).1, none q.2 (hk q hq).2⟩
  have hall : ∀ ps, ps.Perm v.placeholders → restore (interleave Placeholder.key c kcs) ps =
      interleave (Placeholder.source v.placeholders) c kcs := by
    intro ps hps
    rw [hp] at hps ⊢
    rw [← hr]
    exact hv.ledger.restore_eq hps hw hs
  refine ⟨?_, hall v.placeholders (.refl _), hall⟩
  intro p hm
  rw [hp] at hm ⊢
  obtain ⟨e, he, rfl⟩ := List.mem_map.mp hm
  obtain ⟨t, ht, s, hes, hi⟩ := hE.piece e he
  rw [source_eq hv.ledger hE he hes]
  exact ⟨t, by simpa using ht, hi⟩

/-- A key around another one, keys moved, repeated and set side by side, and chunks that come close
to the marker and share underscores with the keys. -/
theorem rehydrate_simultaneous_shared_borders :
    let ts : List Text := ["\x7b\x7b /* \x7b% a %\x7d */ \x7d\x7d".toList, "\x7b# b #\x7d".toList]
    let v := (({} : Vault).maskAll ts).2
    let inner : Placeholder := ⟨"__DJANGO_WRAPPED_0__".toList, "/* \x7b% a %\x7d */".toList⟩
    let outer : Placeholder :=
      ⟨"__DJANGO_PLACEHOLDER_1__".toList, "\x7b\x7b __DJANGO_WRAPPED_0__ \x7d\x7d".toList⟩
    let c : Text := "__DJANGO".toList
    let kcs : List (Placeholder × Text) :=
      [(outer, []), (inner, "_".toList), (outer, "DJANGO".toList), (inner, "WRAPPED_0__".toList)]
    (∀ t ∈ ts, t.hasInfix marker = false) ∧ c.hasInfix marker = false ∧
    (∀ q ∈ kcs, q.1 ∈ v.placeholders ∧ q.2.hasInfix marker = false) ∧
    interleave (Placeholder.source v.placeholders) c kcs =
      ("__DJANGO\x7b\x7b /* \x7b% a %\x7d */ \x7d\x7d/* \x7b% a %\x7d */_" ++
        "\x7b\x7b /* \x7b% a %\x7d */ \x7d\x7dDJANGO/* \x7b% a %\x7d */WRAPPED_0__").toList ∧
    (∀ p ∈ v.placeholders, ∃ t ∈ ts, p.source v.placeholders <:+: t) ∧
    v.rehydrate (interleave Placeholder.key c kcs) =
      interleave (Placeholder.source v.placeholders) c kcs ∧
    ∀ ps, ps.Perm v.placeholders → restore (interleave Placeholder.key c kcs) ps =
      interleave (Placeholder.source v.placeholders) c kcs := by
  intro ts v inner outer c kcs
  have h : ∀ t ∈ ts, t.hasInfix marker = false := by decide +kernel
  have hc : c.hasInfix marker = false := by decide +kernel
  have hk : ∀ q ∈ kcs, q.1 ∈ v.placeholders ∧ q.2.hasInfix marker = false := by decide +kernel
  exact ⟨h, hc, hk, by decide +kernel, rehydrate_simultaneous ts h c kcs hc hk⟩

end TemplateGuard
