import TemplateGuard.Proofs.Lexical.Reading

namespace TemplateGuard.LexState

/-- The state inside a block comment that was opened in this state. -/
def inBlock (s : LexState) : LexState := { s with region := .blockComment }

theorem context_inBlock (s : LexState) : s.inBlock.context = .comment := by
  obtain ⟨region, literals⟩ := s
  rfl

theorem code_of_isCode {s : LexState} (h : s.context.isCode = true) :
    s.region = .code ∧ ∀ outer, s.literals ≠ 0 :: outer := by
  obtain ⟨region, literals⟩ := s
  cases region with
  | code =>
    refine ⟨rfl, ?_⟩
    rintro outer rfl
    simp [context, Context.isCode] at h
  | _ => simp [context, Context.isCode] at h

theorem step_of_isCode {s : LexState} (h : s.context.isCode = true) (c : Char)
    (next : Option Char) : s.step c next = s.stepCode c next := by
  obtain ⟨hr, hl⟩ := code_of_isCode h
  -- `hl` rules out the text of a literal.
  simp only [step, hr]

theorem atPair_of_isCode {s : LexState} (h : s.context.isCode = true) (c d : Char) (t : Text) :
    s.atPair (c :: d :: t) = (c == '/' && (d == '/' || d == '*')) := by
  rw [← wide_step, step_of_isCode h, wide_stepCode]
  simp

theorem step_inBlock_none (s : LexState) (c : Char) :
    (s.inBlock.step c none).state = s.inBlock := by
  simp [inBlock, step]

theorem atPair_inBlock (s : LexState) (c : Char) (t : Text) :
    s.inBlock.atPair (c :: t) = (c == '*' && t.head? == some '/') := by
  cases t <;> simp [inBlock, atPair]

/-- In code position the opening delimiter and the blank after it lead into a comment. -/
theorem read_opening {s : LexState} (h : s.context.isCode = true) (x : Text) :
    (s.read 3 ('/' :: '*' :: ' ' :: x)).1 = s.inBlock := by
  have hp : s.atPair ['/', '*'] = true := by simp [atPair_of_isCode h]
  have hb : (s.step '/' (some '*')).state = s.inBlock := by
    rw [step_of_isCode h]
    rfl
  rw [read_pair hp, hb, read_single (by simp [atPair_inBlock]), read_zero, step_inBlock_none]

/-- The last character before a tag in code position is read in the same way before a comment,
unless it is a slash. -/
theorem atPair_slash {s : LexState} {c : Char} {x y : Text} (hc : c ≠ '/')
    (h : s.atPair (c :: '{' :: x) = false) (hs : (s.step c none).state.context.isCode = true) :
    s.atPair (c :: '/' :: y) = false := by
  obtain ⟨region, literals⟩ := s
  cases region with
  | lineComment => rfl
  | blockComment => exact absurd hs (by simp [step, context, Context.isCode])
  | singleQuote => exact h
  | doubleQuote => exact h
  | code =>
    simp only [atPair] at h ⊢
    split <;> simp_all

theorem read_before_slash {s : LexState} {g x y : Text} (hg : ¬ ['/'] <:+ g)
    (h : (s.read g.length (g ++ '{' :: x)).1.context.isCode = true) :
    s.read g.length (g ++ '/' :: y) = ((s.read g.length (g ++ '{' :: x)).1, g.length) := by
  induction s, g using read_induction with
  | nil s => simp [read_zero]
  | last s c =>
    have hc : c ≠ '/' := by
      rintro rfl
      exact hg (List.suffix_refl _)
    rw [List.length_singleton, List.singleton_append] at h ⊢
    cases hp : s.atPair (c :: '{' :: x) with
    | true =>
      -- An escape or a substitution that the tag is part of is left unread, outside code.
      rw [read_straddle hp] at h
      simp [atPair_of_isCode h] at hp
    | false =>
      rw [List.singleton_append, read_single hp, read_zero]
      rw [read_single hp, read_zero] at h
      rw [read_single (atPair_slash hc hp h), read_zero]
  | pair s c d g hp ih =>
    rw [read_append_pair hp] at h
    have hg' : ¬ ['/'] <:+ g := fun hs => hg (hs.trans ⟨[c, d], rfl⟩)
    rw [read_append_pair hp, read_append_pair hp, ih hg' h]
    rfl
  | single s c d g hp ih =>
    rw [read_append_single hp] at h
    have hg' : ¬ ['/'] <:+ d :: g := fun hs => hg (hs.trans ⟨[c], rfl⟩)
    rw [read_append_single hp, read_append_single hp, ih hg' h]
    rfl

/-- Where a tag is in code position a comment can be opened instead, unless a slash stands before
it. -/
theorem read_open {s : LexState} {g x : Text} (hg : ¬ ['/'] <:+ g)
    (h : (s.read g.length (g ++ '{' :: x)).1.context.isCode = true) (y : Text) :
    (s.read (g.length + 3) (g ++ '/' :: '*' :: ' ' :: y)).1 =
      (s.read g.length (g ++ '{' :: x)).1.inBlock := by
  have hr := read_before_slash (y := '*' :: ' ' :: y) hg h
  rw [read_append (congrArg Prod.snd hr), hr]
  exact read_opening h y

/-- What has no closing delimiter in it leaves the comment open. -/
theorem read_body (s : LexState) {x : Text} (h : ¬ ['*', '/'] <:+: x) :
    (s.inBlock.read x.length x).1 = s.inBlock := by
  induction x with
  | nil => rw [read_nil]
  | cons c x ih =>
    rw [List.infix_cons_iff, not_or] at h
    have hp : s.inBlock.atPair (c :: x) = false := by
      rw [atPair_inBlock, Bool.eq_false_iff]
      intro hc
      cases x with
      | nil => simp at hc
      | cons d x =>
        obtain ⟨rfl, rfl⟩ : c = '*' ∧ d = '/' := by simpa using hc
        exact h.1 ⟨x, rfl⟩
    rw [List.length_cons, read_single hp, step_inBlock_none, ih h.2]

/-- After the closing delimiter the reading goes on where it was left for the comment. -/
theorem read_close {s : LexState} (h : s.context.isCode = true) (n : Nat) (x : Text) :
    (s.inBlock.read (n + 3) (' ' :: '*' :: '/' :: x)).1 = (s.read n x).1 := by
  have hs : (s.inBlock.step '*' (some '/')).state = s := by
    obtain ⟨hr, -⟩ := code_of_isCode h
    obtain ⟨region, literals⟩ := s
    subst hr
    rfl
  rw [read_single (by simp [atPair_inBlock]), step_inBlock_none,
    read_pair (by simp [atPair_inBlock]), hs]

end TemplateGuard.LexState
