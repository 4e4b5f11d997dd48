import TemplateGuard.Lexical.Scanner
import TemplateGuard.Proofs.Lexical.Reading

namespace TemplateGuard

namespace LexState

/-- Induction along a reading with a limit: it stops at the limit, at the end of the text or before
a pair that crosses the limit, or it reads a whole token. -/
theorem limit_induction {motive : LexState → Nat → Text → Prop}
    (zero : ∀ s t, motive s 0 t)
    (nil : ∀ s n, motive s n [])
    (straddle : ∀ s c t, s.atPair (c :: t) = true → motive s 1 (c :: t))
    (pair : ∀ s c d n t, s.atPair [c, d] = true → motive (s.step c (some d)).state n t →
      motive s (n + 2) (c :: d :: t))
    (single : ∀ s c n t, s.atPair (c :: t) = false → motive (s.step c none).state n t →
      motive s (n + 1) (c :: t))
    (s : LexState) (n : Nat) (t : Text) : motive s n t :=
  match n, t with
  | 0, t => zero s t
  | n + 1, [] => nil s (n + 1)
  | n + 1, c :: t =>
    match hp : s.atPair (c :: t) with
    | false => single s c n t hp (limit_induction zero nil straddle pair single _ n t)
    | true =>
      match n, t, hp with
      | 0, t, hp => straddle s c t hp
      | n + 1, d :: t, hp => pair s c d n t hp (limit_induction zero nil straddle pair single _ n t)
      | n + 1, [], hp => absurd hp (by simp [atPair])

/-- Reading up to the place that a reading reached leads there again: no token straddles it. -/
theorem read_reached (s : LexState) (n : Nat) (t : Text) : s.read (s.read n t).2 t = s.read n t := by
  induction s, n, t using limit_induction with
  | zero s t => simp [read_zero]
  | nil s n => simp [read_nil]
  | straddle s c t hp => rw [read_straddle hp, read_zero]
  | pair s c d n t hp ih => rw [read_pair hp, read_pair hp, ih]
  | single s c n t hp ih => rw [read_single hp, read_single hp, ih]

/-- A reading can be broken off wherever a smaller limit stops it, and resumed there. -/
theorem read_resume (s : LexState) {n m : Nat} (h : n ≤ m) (t : Text) :
    s.read m t =
      (((s.read n t).1.read (m - (s.read n t).2) (t.drop (s.read n t).2)).1,
        (s.read n t).2 + ((s.read n t).1.read (m - (s.read n t).2) (t.drop (s.read n t).2)).2) := by
  induction s, n, t using limit_induction generalizing m with
  | zero s t => simp [read_zero]
  | nil s n => simp [read_nil]
  | straddle s c t hp => simp [read_straddle hp]
  | pair s c d n t hp ih =>
    obtain ⟨m, rfl⟩ := Nat.exists_eq_add_of_le' h
    have hi := ih (Nat.le_add_left n m)
    have hl : m + (n + 2) - (((s.step c (some d)).state.read n t).2 + 2) =
        m + n - ((s.step c (some d)).state.read n t).2 := by omega
    rw [read_pair hp, hl, ← Nat.add_assoc, read_pair hp, hi]
    simp only [List.drop_succ_cons, Nat.add_right_comm]
  | single s c n t hp ih =>
    obtain ⟨m, rfl⟩ := Nat.exists_eq_add_of_le' h
    have hi := ih (Nat.le_add_left n m)
    have hl : m + (n + 1) - (((s.step c none).state.read n t).2 + 1) =
        m + n - ((s.step c none).state.read n t).2 := by omega
    rw [read_single hp, hl, ← Nat.add_assoc, read_single hp, hi]
    simp only [List.drop_succ_cons, Nat.add_right_comm]

end LexState

namespace Scanner

/-- The scanner stands where reading its text from the start up to the cursor leads. -/
def OnCourse (s : Scanner) : Prop := LexState.read {} s.position s.text = (s.state, s.position)

theorem onCourse_ofText (t : Text) : (ofText t).OnCourse := LexState.read_zero {} t

theorem moveTo_ofText (t : Text) (n : Nat) :
    (ofText t).moveTo n = ⟨t, (LexState.read {} n t).2, (LexState.read {} n t).1⟩ := by
  simp [moveTo, ofText]

theorem onCourse_moveTo_ofText (t : Text) (n : Nat) : ((ofText t).moveTo n).OnCourse := by
  have hr := LexState.read_reached {} n t
  rw [OnCourse, moveTo_ofText]
  exact hr

/-- From any place on its course a scanner moves as a fresh one does. -/
theorem OnCourse.moveTo_eq {s : Scanner} (h : s.OnCourse) (n : Nat) :
    s.moveTo n = (ofText s.text).moveTo n := by
  by_cases hn : n < s.position
  · have hs : s.moveTo n = s.reset.moveTo n := by simp [moveTo, hn, reset, ofText]
    rw [hs]
    rfl
  · have hr := LexState.read_resume {} (Nat.le_of_not_lt hn) s.text
    have hc : LexState.read {} s.position s.text = (s.state, s.position) := h
    rw [hc] at hr
    rw [moveTo_ofText, hr]
    simp only [moveTo, if_neg hn]

theorem OnCourse.advance_eq {s : Scanner} (h : s.OnCourse) {o : Int}
    (ho : 0 ≤ o ∧ o ≤ s.text.length) :
    s.advance o = (.ok ((ofText s.text).moveTo o.toNat).context, (ofText s.text).moveTo o.toNat) := by
  have hn : ¬ (o < 0 ∨ o > s.text.length) := by omega
  simp only [advance, if_neg hn, h.moveTo_eq]

theorem advance_outside (s : Scanner) {o : Int} (ho : o < 0 ∨ s.text.length < o) :
    s.advance o = (.error ⟨o, s.text.length⟩, s) := if_pos ho

theorem OnCourse.advance {s : Scanner} (h : s.OnCourse) (o : Int) : (s.advance o).2.OnCourse := by
  by_cases ho : 0 ≤ o ∧ o ≤ s.text.length
  · rw [h.advance_eq ho]
    exact onCourse_moveTo_ofText s.text o.toNat
  · rw [s.advance_outside (by omega)]
    exact h

theorem text_advance (s : Scanner) (o : Int) : (s.advance o).2.text = s.text := by
  unfold advance
  split
  · rfl
  · exact text_moveTo s o.toNat

/-- The cursor moves by reading or goes back to the start; a skip and a span that is passed over as
one token do neither. -/
def Query.rereads : Query → Bool
  | advance _ => true
  | reset => true
  | _ => false

/-- The scanner after queries, asked one after the other. -/
def afterAll (s : Scanner) (qs : List Query) : Scanner := qs.foldl (fun s q => (s.ask q).2) s

theorem OnCourse.ask {s : Scanner} (h : s.OnCourse) {q : Query} (hq : q.rereads = true) :
    (s.ask q).2.OnCourse ∧ (s.ask q).2.text = s.text := by
  cases q with
  | advance o => exact ⟨h.advance o, s.text_advance o⟩
  | reset => exact ⟨onCourse_ofText s.text, rfl⟩
  | skip o => exact absurd hq (by simp [Query.rereads])
  | span start stop => exact absurd hq (by simp [Query.rereads])

theorem OnCourse.afterAll {s : Scanner} (h : s.OnCourse) {qs : List Query}
    (hq : ∀ q ∈ qs, q.rereads = true) : (s.afterAll qs).OnCourse ∧ (s.afterAll qs).text = s.text := by
  induction qs generalizing s with
  | nil => exact ⟨h, rfl⟩
  | cons q qs ih =>
    obtain ⟨hc, ht⟩ := h.ask (hq q List.mem_cons_self)
    obtain ⟨hcs, hts⟩ := ih hc fun q hm => hq q (List.mem_cons_of_mem _ hm)
    exact ⟨hcs, hts.trans ht⟩

theorem OnCourse.answer_eq {s : Scanner} (h : s.OnCourse) (o : Int) :
    (s.advance o).1 = classify s.text o := by
  have hf := onCourse_ofText s.text
  by_cases ho : 0 ≤ o ∧ o ≤ s.text.length
  · rw [classify, h.advance_eq ho]
    exact (congrArg Prod.fst (hf.advance_eq ho)).symm
  · have ho' : o < 0 ∨ s.text.length < o := by omega
    rw [classify, s.advance_outside ho']
    exact (congrArg Prod.fst ((ofText s.text).advance_outside ho')).symm

theorem OnCourse.classifyAll_eq {s : Scanner} (h : s.OnCourse) (os : List Int) :
    s.classifyAll os = os.mapM (classify s.text) := by
  induction os generalizing s with
  | nil => rfl
  | cons o os ih =>
    have hi := ih (h.advance o)
    rw [s.text_advance o] at hi
    rw [List.mapM_cons, ← h.answer_eq o, classifyAll, ← hi]
    cases s.advance o with
    | mk answer next =>
      cases answer with
      | error e => rfl
      | ok c =>
        show (next.classifyAll os).map (c :: ·) = (next.classifyAll os).bind fun cs => .ok (c :: cs)
        cases next.classifyAll os <;> rfl

/-- Whatever queries came before, advancing to an offset of the text leaves a scanner as it leaves a
fresh one and answers alike, and any other offset is refused and moves nothing. So many offsets are
classified as each one is by itself. -/
theorem advance_after_queries (t : Text) (qs : List Query) (hq : ∀ q ∈ qs, q.rereads = true) :
    (∀ o : Int, 0 ≤ o ∧ o ≤ t.length → ∃ c next,
      ((ofText t).afterAll qs).advance o = (.ok c, next) ∧ (ofText t).advance o = (.ok c, next)) ∧
    (∀ o : Int, o < 0 ∨ t.length < o →
      ((ofText t).afterAll qs).advance o = (.error ⟨o, t.length⟩, (ofText t).afterAll qs)) ∧
    ∀ os, classifyOffsets t os = os.mapM (classify t) := by
  have hf := onCourse_ofText t
  obtain ⟨hc, ht⟩ := hf.afterAll hq
  have hl : ((ofText t).afterAll qs).text = t := ht
  refine ⟨?inside, ?outside, ?offsets⟩
  case inside =>
    intro o ho
    have hs := hc.advance_eq (o := o) (by rwa [hl])
    rw [hl] at hs
    exact ⟨_, _, hs, hf.advance_eq ho⟩
  case outside =>
    intro o ho
    have hs := ((ofText t).afterAll qs).advance_outside (o := o) (by rwa [hl])
    rwa [hl] at hs
  case offsets => exact hf.classifyAll_eq

/-- Pairs that straddle the offsets asked for, going back and forth, and offsets outside the text. -/
theorem advance_after_queries_straddling :
    let t := "a /* b */ '\\' $\x7b".toList
    let qs : List Query := [.advance 3, .advance 9, .advance (-1), .advance 8, .reset, .advance 12,
      .advance 40, .advance 4, .advance 3]
    (∀ q ∈ qs, q.rereads = true) ∧ ((ofText t).afterAll qs).position = 2 ∧
    (∀ o : Int, 0 ≤ o ∧ o ≤ t.length → ∃ c next,
      ((ofText t).afterAll qs).advance o = (.ok c, next) ∧ (ofText t).advance o = (.ok c, next)) ∧
    (∀ o : Int, o < 0 ∨ t.length < o →
      ((ofText t).afterAll qs).advance o = (.error ⟨o, t.length⟩, (ofText t).afterAll qs)) ∧
    ∀ os, classifyOffsets t os = os.mapM (classify t) := by
  intro t qs
  have hq : ∀ q ∈ qs, q.rereads = true := by decide
  exact ⟨hq, by decide +kernel, advance_after_queries t qs hq⟩

end Scanner

end TemplateGuard
