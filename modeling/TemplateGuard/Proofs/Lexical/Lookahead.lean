import TemplateGuard.Proofs.Lexical.Regular

namespace TemplateGuard

theorem Text.length_le_of_at?_eq_none {t : Text} {i : Int} (h0 : 0 ≤ i) (h : t.at? i = none) :
    t.length ≤ i := by
  rw [Text.at?, if_pos h0, List.getElem?_eq_none_iff] at h
  omega

theorem Text.exists_at? {t : Text} {i : Int} (h0 : 0 ≤ i) (h : i < t.length) :
    ∃ c, t.at? i = some c := by
  have hi : i.toNat < t.length := by omega
  exact ⟨t[i.toNat], by rw [Text.at?, if_pos h0, List.getElem?_eq_getElem hi]⟩

namespace Flags

variable {t : Text} {o : Int} {f g k : Flags}

theorem position_readQuoted_iff {stop : Int} (hs : f.position + 2 ≤ stop) (c : Char) :
    (f.readQuoted stop c).position = f.position + 2 ↔ c = '\\' := by
  have hm : min (f.position + 2) stop = f.position + 2 := Int.min_eq_left hs
  unfold readQuoted
  split_ifs with hc <;> simp [escape, one, hm, hc]

theorem position_readText_iff {stop : Int} (hs : f.position + 2 ≤ stop) (c d : Char) :
    (f.readText stop c (some d)).position = f.position + 2 ↔ c = '\\' ∨ c = '$' ∧ d = '{' := by
  have hm : min (f.position + 2) stop = f.position + 2 := Int.min_eq_left hs
  unfold readText
  split_ifs with hc hd hb
  · simp [escape, hm, hc]
  · simpa [two] using Or.inr hd
  · have hl : f.one.closeLiteral.position = f.position + 1 := position_closeLiteral f.one
    simp [hl, hb]
  · simpa [one, hc] using hd

theorem position_readCode_iff (f : Flags) (c d : Char) :
    (f.readCode c (some d)).position = f.position + 2 ↔ c = '/' ∧ (d = '/' ∨ d = '*') := by
  unfold readCode
  split_ifs <;> simp_all [one, two, openLiteral]

/-- The step has the same table of two-character tokens as the look ahead. -/
theorem position_read_iff {c d : Char} (hc : t.at? f.position = some c)
    (hd : t.at? (f.position + 1) = some d) {stop : Int} (hs : f.position + 2 ≤ stop) :
    (f.read stop c (some d)).position = f.position + 2 ↔ f.atPair t = true := by
  simp only [atPair, hc, hd]
  unfold read
  simp only [Bool.or_eq_true, Bool.and_eq_true, beq_iff_eq, Option.some.injEq]
  split_ifs with hl he hb hp hq ht
  · simp [one]
  · simp [one]
  · simp [two, hp]
  · simp [one, hp]
  · simpa using position_readQuoted_iff hs c
  · simpa using position_readText_iff hs c d
  · simpa using position_readCode_iff f c d

/-- Whatever the flags, a step takes two characters exactly where the look ahead sees a pair. -/
theorem atPair_iff_of_step (hs : f.step t = some g) :
    f.atPair t = true ↔ g.position = f.position + 2 := by
  obtain ⟨h0, -, -, hl⟩ := position_step hs
  obtain ⟨c, hc, rfl⟩ := Option.map_eq_some_iff.mp hs
  cases hd : t.at? (f.position + 1) with
  | some d =>
    have hb : f.position + 2 ≤ t.length := by
      have hn := (Text.at?_eq_some hd).2
      omega
    exact (position_read_iff hc hd hb).symm
  | none =>
    -- The last character of the text is a token by itself, even a backslash.
    have hn := Text.length_le_of_at?_eq_none (by omega) hd
    rw [hd] at hl
    refine iff_of_false ?_ (by omega)
    simp [atPair, hc, hd]

theorem step_of_at? {c : Char} (hc : t.at? f.position = some c) :
    f.step t = some (f.read t.length c (t.at? (f.position + 1))) := by
  rw [step, hc, Option.map_some]

/-- Where the text has a character at the cursor, a step is taken. -/
theorem exists_step (h0 : 0 ≤ f.position) (hl : f.position < t.length) :
    ∃ g, f.step t = some g := by
  obtain ⟨c, hc⟩ := Text.exists_at? h0 hl
  exact ⟨_, step_of_at? hc⟩

theorem exists_step_of_atPair (ha : f.atPair t = true) : ∃ g, f.step t = some g := by
  cases hc : t.at? f.position with
  | none => simp [atPair, hc] at ha
  | some c => exact ⟨_, step_of_at? hc⟩

/-- The token at the cursor has two characters, the offset between them. -/
def Straddles (t : Text) (o : Int) (f : Flags) : Prop :=
  f.position = o - 1 ∧ ∃ g, f.step t = some g ∧ g.position = o + 1

theorem straddles_iff : f.Straddles t o ↔ f.position = o - 1 ∧ f.atPair t = true := by
  constructor
  · rintro ⟨hp, g, hs, hg⟩
    exact ⟨hp, (atPair_iff_of_step hs).mpr (by omega)⟩
  · rintro ⟨hp, ha⟩
    obtain ⟨g, hs⟩ := exists_step_of_atPair ha
    have hg := (atPair_iff_of_step hs).mp ha
    exact ⟨hp, g, hs, by omega⟩

/-- The cursor is moved on to the offset and never past it: where a step would take it past, the
look ahead has stopped the loop. -/
theorem Reads.stops (hr : Reads t o f g) (hf : f.position ≤ o) :
    g.position = o ∨ g.Straddles t o := by
  induction hr with
  | done ho => exact Or.inl (Int.le_antisymm hf ho)
  | straddle hp ha => exact Or.inr (straddles_iff.mpr ⟨hp, ha⟩)
  | @step f g _ hlt hn hs _ ih =>
    apply ih
    have hpair := atPair_iff_of_step hs
    obtain ⟨-, -, hone | htwo, -⟩ := position_step hs
    · omega
    · have hp : f.position ≠ o - 1 := fun hp => hn ⟨hp, hpair.mpr htwo⟩
      omega

/-- Steps lead from the first flags to the second. -/
def Reaches (t : Text) : Flags → Flags → Prop :=
  Relation.ReflTransGen fun f g => f.step t = some g

/-- Steps only move the cursor forward. -/
theorem Reaches.eq_or_lt (h : Reaches t f g) : f = g ∨ f.position < g.position := by
  induction h with
  | refl => exact Or.inl rfl
  | tail _ hs ih =>
    obtain ⟨-, -, hmove, -⟩ := position_step hs
    rcases ih with rfl | hlt <;> omega

/-- A token that straddles the offset ends the loop, wherever the steps come to it. -/
theorem Reads.eq_of_straddles (hr : Reads t o f g) (hk : Reaches t f k) (hs : k.Straddles t o) :
    g = k := by
  obtain ⟨hp, ha⟩ := straddles_iff.mp hs
  induction hr with
  | done ho =>
    -- The cursor has passed the place of that token already.
    rcases hk.eq_or_lt with rfl | hlt <;> omega
  | straddle hf _ =>
    -- Both stand one short of the offset, and a further step would lead away from there.
    rcases hk.eq_or_lt with rfl | hlt
    · rfl
    · omega
  | step _ hn hs _ ih =>
    rcases hk.cases_head with rfl | ⟨g', hs', hk'⟩
    · exact absurd ⟨hp, ha⟩ hn
    · obtain rfl := Option.some.inj (hs'.symm.trans hs)
      exact ih hk'

end Flags

namespace Scanner

/-- Looking ahead and stepping agree, for the state that is kept and for flags of every kind, with
the cursor anywhere in the text. So a scanner that was asked anything and is moved to an offset of
the text stops there or one short of it: one short exactly if its steps come to a token that
straddles the offset, and then right before that token. -/
theorem lookahead_agrees (t : Text) :
    (∀ (s : LexState) (p : Nat), p < t.length → ∃ c u, t.drop p = c :: u ∧
      (s.atPair (c :: u) = true ↔ (s.step c u.head?).stop p = p + 2)) ∧
    (∀ f : Flags, 0 ≤ f.position → f.position < t.length → ∃ g, f.step t = some g ∧
      (f.atPair t = true ↔ g.position = f.position + 2)) ∧
    ∀ (qs : List Query) (o : Int), 0 ≤ o → o ≤ t.length →
      let s := (ofText t).afterAll qs
      let start : Flags := if o < s.flags.position then {} else s.flags
      let stop := (s.advance o).2.flags
      (stop.position = o ∨ stop.position = o - 1) ∧
      (stop.position = o - 1 ↔ ∃ f, Flags.Reaches t start f ∧ f.Straddles t o) ∧
      ∀ f, Flags.Reaches t start f → f.Straddles t o → stop = f := by
  refine ⟨?state, ?flags, ?advance⟩
  case state =>
    intro s p hp
    have hn : t.drop p ≠ [] := List.drop_eq_nil_iff.not.mpr (Nat.not_le.mpr hp)
    obtain ⟨c, u, hd⟩ := List.exists_cons_of_ne_nil hn
    refine ⟨c, u, hd, ?_⟩
    rw [← LexState.wide_step, LexState.Step.stop]
    cases (s.step c u.head?).wide <;> simp
  case flags =>
    intro f h0 hl
    obtain ⟨g, hs⟩ := Flags.exists_step h0 hl
    exact ⟨g, hs, Flags.atPair_iff_of_step hs⟩
  case advance =>
    intro qs o h0 hl s start stop
    have ht : s.text = t := text_afterAll _ qs
    have hr : Flags.Reads t o start stop := by
      have hr := s.reads_advance h0 (by rwa [ht])
      rwa [ht] at hr
    have hstart : start.position ≤ o := by
      show Flags.position (if _ then _ else _) ≤ o
      split_ifs with hb
      · exact h0
      · exact Int.not_lt.mp hb
    have hstops := hr.stops hstart
    refine ⟨hstops.imp_right And.left, ⟨?short, ?straddles⟩, fun f => hr.eq_of_straddles⟩
    case short =>
      intro hp
      have hs : stop.Straddles t o := hstops.resolve_left (by omega)
      exact ⟨stop, hr.steps, hs⟩
    case straddles =>
      rintro ⟨f, hf, hs⟩
      rw [hr.eq_of_straddles hf hs, hs.1]

/-- After a skip past the end a comment is read again from the start, up to the opener that
straddles the offset. -/
theorem lookahead_agrees_straddling :
    let t := "a /* b */".toList
    let s := (ofText t).afterAll [.advance 6, .skip 20]
    s.flags.position = 20 ∧ (s.advance 3).2.flags.position = 2 ∧
    ∃ f, Flags.Reaches t {} f ∧ f.Straddles t 3 := by
  intro t s
  have hs : s.flags.position = 20 := by decide +kernel
  have hp : (s.advance 3).2.flags.position = 2 := by decide +kernel
  have hf := ((lookahead_agrees t).2.2 [.advance 6, .skip 20] 3 (by decide) (by decide)).2.1.mp hp
  rw [if_pos (show (3 : Int) < s.flags.position by omega)] at hf
  exact ⟨hs, hp, hf⟩

end Scanner

end TemplateGuard
