import TemplateGuard.Proofs.Lexical.Flags

namespace TemplateGuard

namespace Flags

/-- The flags of the regions in which no literal is read. -/
def regions (f : Flags) : List Bool := [f.singleQuote, f.doubleQuote, f.lineComment, f.blockComment]

/-- The flags fit together: no two regions are open at once and none in the text of a literal, no
more braces are closed than opened, every literal around the innermost one is in a substitution, and
outside literals nothing is left of them. -/
structure Regular (f : Flags) : Prop where
  position_nonneg : 0 ≤ f.position
  one_region : f.regions.count true ≤ 1
  text_bare : f.template = true → f.depth = 0 → f.regions.count true = 0
  depth_nonneg : 0 ≤ f.depth
  stack_pos : ∀ d ∈ f.stack, 1 ≤ d
  outside : f.template = false → f.depth = 0 ∧ f.stack = []

theorem count_regions_eq_zero_iff (f : Flags) : f.regions.count true = 0 ↔
    f.singleQuote = false ∧ f.doubleQuote = false ∧ f.lineComment = false ∧
      f.blockComment = false := by
  simp [regions, List.count_eq_zero]

theorem regular_start : Regular {} where
  position_nonneg := Int.le_refl 0
  one_region := by decide
  text_bare := by simp
  depth_nonneg := Int.le_refl 0
  stack_pos := by simp
  outside := fun _ => ⟨rfl, rfl⟩

/-- Moving the cursor touches no flag. -/
theorem Regular.move {f : Flags} (h : f.Regular) {p : Int} (hp : 0 ≤ p) :
    Regular { f with position := p } :=
  { h with position_nonneg := hp }

theorem Regular.one {f : Flags} (h : f.Regular) : f.one.Regular :=
  h.move (Int.add_nonneg h.position_nonneg (by decide))

theorem Regular.two {f : Flags} (h : f.Regular) : f.two.Regular :=
  h.move (Int.add_nonneg h.position_nonneg (by decide))

theorem Regular.escape {f : Flags} (h : f.Regular) {stop : Int} (hs : 0 ≤ stop) :
    (f.escape stop).Regular :=
  h.move (Int.le_min.mpr ⟨Int.add_nonneg h.position_nonneg (by decide), hs⟩)

/-- Closing regions is always possible. -/
theorem Regular.close {f : Flags} (h : f.Regular) {a b c d : Bool}
    (hc : [a, b, c, d].count true ≤ f.regions.count true) :
    Regular { f with singleQuote := a, doubleQuote := b, lineComment := c, blockComment := d } where
  position_nonneg := h.position_nonneg
  one_region := Nat.le_trans hc h.one_region
  text_bare := fun ht hd => Nat.le_zero.mp (h.text_bare ht hd ▸ hc)
  depth_nonneg := h.depth_nonneg
  stack_pos := h.stack_pos
  outside := h.outside

/-- A region opens where none is open and no text of a literal is read. -/
theorem Regular.openRegion {f : Flags} (h : f.Regular) (ht : ¬ (f.template = true ∧ f.depth = 0))
    {a b c d : Bool} (hc : [a, b, c, d].count true ≤ 1) :
    Regular { f with singleQuote := a, doubleQuote := b, lineComment := c, blockComment := d } where
  position_nonneg := h.position_nonneg
  one_region := hc
  text_bare := fun h1 h2 => absurd ⟨h1, h2⟩ ht
  depth_nonneg := h.depth_nonneg
  stack_pos := h.stack_pos
  outside := h.outside

/-- In a literal, with no region open, the depth may be any that is not negative. -/
theorem Regular.setDepth {f : Flags} (h : f.Regular) (ht : f.template = true) {d : Int} (hd : 0 ≤ d)
    (hr : f.regions.count true = 0) : Regular { f with depth := d } where
  position_nonneg := h.position_nonneg
  one_region := h.one_region
  text_bare := fun _ _ => hr
  depth_nonneg := hd
  stack_pos := h.stack_pos
  outside := fun hf => absurd (ht.symm.trans hf) (by decide)

theorem Regular.openLiteral {f : Flags} (h : f.Regular) (hr : f.regions.count true = 0)
    (ht : ¬ (f.template = true ∧ f.depth = 0)) : f.openLiteral.Regular where
  position_nonneg := h.position_nonneg
  one_region := h.one_region
  text_bare := fun _ _ => hr
  depth_nonneg := Int.le_refl 0
  stack_pos := by
    intro d hd
    unfold Flags.openLiteral at hd
    split at hd
    · next hf =>
      rcases List.mem_append.mp hd with hm | hm
      · exact h.stack_pos d hm
      · obtain rfl := List.mem_singleton.mp hm
        have hz : f.depth ≠ 0 := fun hz => ht ⟨hf, hz⟩
        have hn := h.depth_nonneg
        omega
    · exact h.stack_pos d hd
  outside := fun hf => absurd hf (by simp [Flags.openLiteral])

theorem Regular.closeLiteral {f : Flags} (h : f.Regular) (hr : f.regions.count true = 0)
    (hd : f.depth = 0) (ht : f.template = true) : f.closeLiteral.Regular := by
  unfold Flags.closeLiteral
  split
  · next d hl =>
    have hm : d ∈ f.stack := List.mem_of_getLast? hl
    have hp := h.stack_pos d hm
    exact {
      position_nonneg := h.position_nonneg
      one_region := h.one_region
      text_bare := fun _ _ => hr
      depth_nonneg := Int.le_trans (by decide) hp
      stack_pos := fun e he => h.stack_pos e (List.dropLast_subset f.stack he)
      outside := fun hf => absurd (ht.symm.trans hf) (by decide) }
  · next hl =>
    exact {
      position_nonneg := h.position_nonneg
      one_region := h.one_region
      text_bare := fun _ _ => hr
      depth_nonneg := h.depth_nonneg
      stack_pos := h.stack_pos
      outside := fun _ => ⟨hd, List.getLast?_eq_none_iff.mp hl⟩ }

theorem Regular.readQuoted {f : Flags} (h : f.Regular) {stop : Int} (hs : 0 ≤ stop) (c : Char) :
    (f.readQuoted stop c).Regular := by
  unfold Flags.readQuoted
  split_ifs
  · exact h.escape hs
  · exact h.one.close (by simp [regions, Flags.one, List.count_cons])
  · exact h.one.close (by simp [regions, Flags.one, List.count_cons])
  · exact h.one

theorem Regular.readText {f : Flags} (h : f.Regular) (ht : f.template = true) (hd : f.depth = 0)
    {stop : Int} (hs : 0 ≤ stop) (c : Char) (next : Option Char) :
    (f.readText stop c next).Regular := by
  have hr := h.text_bare ht hd
  unfold Flags.readText
  split_ifs
  · exact h.escape hs
  · exact h.two.setDepth ht (by decide) hr
  · exact h.one.closeLiteral hr hd ht
  · exact h.one

theorem Regular.readCode {f : Flags} (h : f.Regular) (hr : f.regions.count true = 0)
    (ht : ¬ (f.template = true ∧ f.depth = 0)) (c : Char) (next : Option Char) :
    (f.readCode c next).Regular := by
  have hn := h.depth_nonneg
  obtain ⟨hs, hd, hl, hb⟩ := f.count_regions_eq_zero_iff.mp hr
  unfold Flags.readCode
  split_ifs with h1 h2 h3 h4 h5 h6 h7
  · exact h.two.openRegion ht (by simp [Flags.two, hs, hd, hb])
  · exact h.two.openRegion ht (by simp [Flags.two, hs, hd, hl])
  · exact h.one.openRegion ht (by simp [Flags.one, hd, hl, hb])
  · exact h.one.openRegion ht (by simp [Flags.one, hs, hl, hb])
  · exact h.one.openLiteral hr ht
  · exact h.one.setDepth h6.1 (Int.add_nonneg hn (by decide)) hr
  · have hz : f.depth ≠ 0 := fun hz => ht ⟨h7.1, hz⟩
    have hp : 0 ≤ f.depth - 1 := by omega
    exact h.one.setDepth h7.1 hp hr
  · exact h.one

theorem Regular.read {f : Flags} (h : f.Regular) {stop : Int} (hs : 0 ≤ stop) (c : Char)
    (next : Option Char) : (f.read stop c next).Regular := by
  unfold Flags.read
  split_ifs with hl he hb hp hq ht
  · exact h.one.close (by simp [regions, Flags.one, List.count_cons])
  · exact h.one
  · exact h.two.close (by simp [regions, Flags.two, List.count_cons])
  · exact h.one
  · exact h.readQuoted hs c
  · exact h.readText ht.1 ht.2 hs c next
  · obtain ⟨hs, hd⟩ := not_or.mp hq
    have hr : f.regions.count true = 0 := f.count_regions_eq_zero_iff.mpr
      ⟨Bool.eq_false_iff.mpr hs, Bool.eq_false_iff.mpr hd, Bool.eq_false_iff.mpr hl,
        Bool.eq_false_iff.mpr hb⟩
    exact h.readCode hr ht c next

/-- One step leads from flags that fit together to flags that do. -/
theorem Regular.step {t : Text} {f g : Flags} (h : f.Regular) (hs : f.step t = some g) :
    g.Regular := by
  obtain ⟨c, -, rfl⟩ := Option.map_eq_some_iff.mp hs
  exact h.read (Int.natCast_nonneg t.length) c _

theorem Regular.reads {t : Text} {o : Int} {f g : Flags} (h : f.Regular) (hr : Reads t o f g) :
    g.Regular := by
  induction hr with
  | done => exact h
  | straddle => exact h
  | step _ _ hs _ ih => exact ih (h.step hs)

end Flags

namespace Scanner

theorem regular_advance {s : Scanner} (h : s.flags.Regular) (o : Int) :
    (s.advance o).2.flags.Regular := by
  by_cases ho : 0 ≤ o ∧ o ≤ s.text.length
  · have hr := s.reads_advance ho.1 ho.2
    split at hr
    · exact Flags.regular_start.reads hr
    · exact h.reads hr
  · rw [s.advance_outside (by omega)]
    exact h

theorem regular_skipTo {s : Scanner} (h : s.flags.Regular) (o : Int) :
    (s.skipTo o).flags.Regular := by
  unfold skipTo
  split
  · exact h.move (Int.natCast_nonneg _)
  · exact h

/-- What a span does to a scanner is advancing and skipping. -/
theorem exists_classifySpan (s : Scanner) (start stop : Int) :
    (s.classifySpan start stop).2 = (s.advance start).2 ∨
    (s.classifySpan start stop).2 = ((s.advance start).2.advance stop).2 ∨
    (s.classifySpan start stop).2 = (s.advance start).2.skipTo stop := by
  unfold classifySpan
  split
  · next e s' he => exact Or.inl (by rw [he])
  · next s' he =>
    rw [he]
    split <;> next h2 => exact Or.inr (Or.inl (by rw [h2]))
  · next c s' hc he => exact Or.inr (Or.inr (by rw [he]))

theorem regular_ask {s : Scanner} (h : s.flags.Regular) (q : Query) :
    (s.ask q).2.flags.Regular := by
  cases q with
  | advance o => exact regular_advance h o
  | skip o => exact regular_skipTo h o
  | reset => exact Flags.regular_start
  | span start stop =>
    have ha := regular_advance h start
    show (s.classifySpan start stop).2.flags.Regular
    rcases s.exists_classifySpan start stop with he | he | he <;> rw [he]
    · exact ha
    · exact regular_advance ha stop
    · exact regular_skipTo ha stop

theorem regular_afterAll {s : Scanner} (h : s.flags.Regular) (qs : List Query) :
    (s.afterAll qs).flags.Regular := by
  induction qs generalizing s with
  | nil => exact h
  | cons q qs ih => exact ih (regular_ask h q)

theorem text_skipTo (s : Scanner) (o : Int) : (s.skipTo o).text = s.text := by
  unfold skipTo
  split <;> rfl

theorem text_ask (s : Scanner) (q : Query) : (s.ask q).2.text = s.text := by
  cases q with
  | advance o => exact s.text_advance o
  | skip o => exact s.text_skipTo o
  | reset => rfl
  | span start stop =>
    have ha := s.text_advance start
    show (s.classifySpan start stop).2.text = s.text
    rcases s.exists_classifySpan start stop with he | he | he <;> rw [he]
    · exact ha
    · exact (text_advance _ stop).trans ha
    · exact (text_skipTo _ stop).trans ha

theorem text_afterAll (s : Scanner) (qs : List Query) : (s.afterAll qs).text = s.text := by
  induction qs generalizing s with
  | nil => rfl
  | cons q qs ih => exact (ih _).trans (s.text_ask q)

/-- Whatever a scanner was asked, its flags fit together. To move on it takes steps until the offset
is reached, each at a character of the text and by one or two characters of it. -/
theorem regular_after_queries (t : Text) (qs : List Query) :
    ((ofText t).afterAll qs).flags.Regular ∧
    (∀ o : Int, 0 ≤ o → o ≤ t.length →
      Flags.Reads t o
        (if o < ((ofText t).afterAll qs).flags.position then {} else ((ofText t).afterAll qs).flags)
        (((ofText t).afterAll qs).advance o).2.flags) ∧
    ∀ f g : Flags, f.step t = some g → 0 ≤ f.position ∧ f.position < t.length ∧
      (g.position = f.position + 1 ∨ g.position = f.position + 2) ∧ g.position ≤ t.length := by
  have hf : (ofText t).flags.Regular := Flags.regular_start
  have ht : ((ofText t).afterAll qs).text = t := text_afterAll _ qs
  refine ⟨regular_afterAll hf qs, ?loop, ?step⟩
  case loop =>
    intro o h0 hl
    have hr := reads_advance ((ofText t).afterAll qs) h0 (by rwa [ht])
    rwa [ht] at hr
  case step =>
    intro f g h
    exact Flags.position_step h

end Scanner

end TemplateGuard
