import TemplateGuard.Proofs.Lexical.BlockComment
import TemplateGuard.Proofs.Lexical.Flags

namespace TemplateGuard

/-- What a word is read as: code, told whether its last character is a slash of that code, or the
text of a template literal. -/
inductive Reading where
  | code (slash : Bool)
  | text

/-- What may stand between two quotes. -/
inductive InQuotes (quote : Char) : Text → Prop where
  | nil : InQuotes quote []
  | char {c : Char} {w : Text} : c ≠ quote → c ≠ '\\' → InQuotes quote w → InQuotes quote (c :: w)
  | escape {c : Char} {w : Text} : InQuotes quote w → InQuotes quote ('\\' :: c :: w)

/-- Words in which all that is opened is closed again. A slash in code is a token by itself if
neither a slash nor a star follows; what follows the last one is for the surroundings to say. -/
inductive Balanced : Reading → Text → Prop where
  | nil : Balanced (.code false) []
  | char {b : Bool} {c : Char} {w : Text} : c ∉ ['\x27', '\x22', '\x60', '{', '}', '/'] →
      Balanced (.code b) w → Balanced (.code b) (c :: w)
  | lastSlash : Balanced (.code true) ['/']
  | slash {b : Bool} {c : Char} {w : Text} : c ≠ '/' → c ≠ '*' → Balanced (.code b) (c :: w) →
      Balanced (.code b) ('/' :: c :: w)
  | quoted {b : Bool} {q : Char} {v w : Text} : q = '\x27' ∨ q = '\x22' → InQuotes q v →
      Balanced (.code b) w → Balanced (.code b) (q :: (v ++ q :: w))
  | lineComment {b : Bool} {c : Char} {v w : Text} : (∀ d ∈ v, isLineEnd d = false) →
      isLineEnd c = true → Balanced (.code b) w →
      Balanced (.code b) ('/' :: '/' :: (v ++ c :: w))
  | blockComment {b : Bool} {v w : Text} : ¬ ['*', '/'] <:+: v → Balanced (.code b) w →
      Balanced (.code b) ('/' :: '*' :: (v ++ '*' :: '/' :: w))
  | braces {b b' : Bool} {v w : Text} : Balanced (.code b') v → Balanced (.code b) w →
      Balanced (.code b) ('{' :: (v ++ '}' :: w))
  | template {b : Bool} {v w : Text} : Balanced .text v → Balanced (.code b) w →
      Balanced (.code b) ('\x60' :: (v ++ '\x60' :: w))
  | textNil : Balanced .text []
  | textChar {c : Char} {w : Text} : c ∉ ['\x60', '\\', '$'] → Balanced .text w →
      Balanced .text (c :: w)
  | textEscape {c : Char} {w : Text} : Balanced .text w → Balanced .text ('\\' :: c :: w)
  | textDollar {w : Text} : w.head? ≠ some '{' → Balanced .text w → Balanced .text ('$' :: w)
  | substitution {b : Bool} {v w : Text} : Balanced (.code b) v → Balanced .text w →
      Balanced .text ('$' :: '{' :: (v ++ '}' :: w))

namespace LexState

/-- Reading a stretch before a text leads from one state to another, however far it goes on. -/
def Leads (s : LexState) (w x : Text) (s' : LexState) : Prop :=
  ∀ n, s.read (w.length + n) (w ++ x) = ((s'.read n x).1, (s'.read n x).2 + w.length)

theorem leads_nil (s : LexState) (x : Text) : s.Leads [] x s := by
  intro n
  simp

theorem Leads.single {s s' : LexState} {c : Char} {w x : Text}
    (hp : s.atPair (c :: (w ++ x)) = false) (h : (s.step c none).state.Leads w x s') :
    s.Leads (c :: w) x s' := by
  intro n
  rw [List.length_cons, Nat.add_right_comm, List.cons_append, read_single hp, h]
  rfl

theorem Leads.pair {s s' : LexState} {c d : Char} {w x : Text} (hp : s.atPair [c, d] = true)
    (h : (s.step c (some d)).state.Leads w x s') : s.Leads (c :: d :: w) x s' := by
  intro n
  rw [List.length_cons, List.length_cons, Nat.add_right_comm, Nat.add_right_comm _ 1 n,
    List.cons_append, List.cons_append, read_pair hp, h]
  rfl

/-- The region that a quote opens. -/
def quotedRegion (q : Char) : Region := if q = '\x27' then .singleQuote else .doubleQuote

theorem step_quoted {q : Char} (hq : q = '\x27' ∨ q = '\x22') (l : List Int) (c : Char)
    (next : Option Char) :
    step ⟨quotedRegion q, l⟩ c next = stepQuoted ⟨quotedRegion q, l⟩ q c next := by
  rcases hq with rfl | rfl <;> rfl

theorem atPair_quoted {q : Char} (hq : q = '\x27' ∨ q = '\x22') (l : List Int) (c : Char)
    (t : Text) : atPair ⟨quotedRegion q, l⟩ (c :: t) = (c == '\\' && t.head?.isSome) := by
  rw [← wide_step, step_quoted hq, wide_stepQuoted]

variable {w x : Text} {s' : LexState}

theorem Leads.quoted {q : Char} (hq : q = '\x27' ∨ q = '\x22') {l : List Int} {v : Text}
    (hv : InQuotes q v) (h : Leads ⟨.code, l⟩ w x s') :
    Leads ⟨quotedRegion q, l⟩ (v ++ q :: w) x s' := by
  induction hv with
  | nil =>
    have hb : q ≠ '\\' := by rcases hq with rfl | rfl <;> decide
    refine .single ?_ ?_
    · simp [atPair_quoted hq, hb]
    · rw [step_quoted hq]
      simpa [stepQuoted, hb] using h
  | char hne hb _ ih =>
    refine .single ?_ ?_
    · simp [atPair_quoted hq, hb]
    · rw [step_quoted hq]
      simpa [stepQuoted, hb, hne] using ih
  | escape _ ih =>
    refine .pair ?_ ?_
    · simp [atPair_quoted hq]
    · rw [step_quoted hq]
      simpa [stepQuoted] using ih

theorem Leads.lineComment {l : List Int} {v : Text} {c : Char} (hv : ∀ d ∈ v, isLineEnd d = false)
    (hc : isLineEnd c = true) (h : Leads ⟨.code, l⟩ w x s') :
    Leads ⟨.lineComment, l⟩ (v ++ c :: w) x s' := by
  have hp : ∀ t, atPair ⟨.lineComment, l⟩ t = false := by
    intro t
    rcases t with _ | ⟨d, _ | ⟨e, t⟩⟩ <;> rfl
  induction v with
  | nil =>
    refine .single (hp _) ?_
    simpa [step, hc] using h
  | cons d v ih =>
    refine .single (hp _) ?_
    have hi := ih fun e he => hv e (List.mem_cons_of_mem d he)
    simpa [step, hv d List.mem_cons_self] using hi

theorem Leads.blockComment {s : LexState} (hs : s.region = .code) {v : Text}
    (hv : ¬ ['*', '/'] <:+: v) (h : s.Leads w x s') :
    s.inBlock.Leads (v ++ '*' :: '/' :: w) x s' := by
  induction v with
  | nil =>
    refine .pair rfl ?_
    obtain ⟨region, l⟩ := s
    obtain rfl : region = .code := hs
    exact h
  | cons c v ih =>
    rw [List.infix_cons_iff, not_or] at hv
    refine .single ?_ ?_
    · rw [atPair_inBlock, Bool.eq_false_iff]
      intro hc
      cases v with
      | nil => simp at hc
      | cons d v =>
        obtain ⟨rfl, rfl⟩ : c = '*' ∧ d = '/' := by simpa using hc
        exact hv.1 ⟨v, rfl⟩
    · rw [step_inBlock_none]
      exact ih hv.2

/-- Code is read, outside literals or in a substitution that has a brace to be closed. -/
def InCode (s : LexState) : Prop :=
  s.context = .plain ∨ s.context = .templateExpr ∧ 1 ≤ s.depth

theorem InCode.isCode {s : LexState} (h : s.InCode) : s.context.isCode = true := by
  rcases h with h | ⟨h, -⟩ <;> rw [h] <;> rfl

theorem inCode_iff (s : LexState) :
    s.InCode ↔ s = ⟨.code, []⟩ ∨ ∃ d outer, 1 ≤ d ∧ s = ⟨.code, d :: outer⟩ := by
  constructor
  · intro h
    obtain ⟨hr, hl⟩ := code_of_isCode h.isCode
    obtain ⟨region, literals⟩ := s
    obtain rfl : region = .code := hr
    cases literals with
    | nil => exact Or.inl rfl
    | cons d outer =>
      rcases h with h | ⟨-, hd⟩
      · simp only [context] at h
        split at h <;> simp_all
      · exact Or.inr ⟨d, outer, hd, rfl⟩
  · rintro (rfl | ⟨d, outer, hd, rfl⟩)
    · exact Or.inl rfl
    · refine Or.inr ⟨?_, hd⟩
      simp only [context]
      split <;> simp_all

theorem InCode.code_literals {s : LexState} (h : s.InCode) : ⟨.code, s.literals⟩ = s := by
  rw [← (code_of_isCode h.isCode).1]

theorem InCode.addDepth {s : LexState} (h : s.InCode) :
    (s.addDepth 1).InCode ∧ (s.addDepth 1).addDepth (-1) = s := by
  rcases s.inCode_iff.mp h with rfl | ⟨d, outer, hd, rfl⟩
  · exact ⟨h, rfl⟩
  · refine ⟨(inCode_iff _).mpr (Or.inr ⟨d + 1, outer, by omega, rfl⟩), ?_⟩
    show LexState.mk .code ((d + 1 + -1) :: outer) = _
    rw [Int.add_neg_cancel_right]

theorem inCode_substitution (outer : List Int) : InCode ⟨.code, 1 :: outer⟩ :=
  (inCode_iff _).mpr (Or.inr ⟨1, outer, Int.le_refl 1, rfl⟩)

theorem atPair_code {s : LexState} (h : s.InCode) (c : Char) (t : Text) :
    s.atPair (c :: t) = (c == '/' && (t.head? == some '/' || t.head? == some '*')) := by
  rw [← wide_step, step_of_isCode h.isCode, wide_stepCode]

/-- In code a character that does not start a comment is a token by itself. -/
theorem Leads.code {s : LexState} (h : s.InCode) {c : Char}
    (hc : c = '/' → (w ++ x).head? ≠ some '/' ∧ (w ++ x).head? ≠ some '*')
    (hs : (s.stepCode c none).state.Leads w x s') : s.Leads (c :: w) x s' := by
  refine .single ?_ ?_
  · rw [atPair_code h, Bool.and_eq_false_imp, beq_iff_eq]
    intro he
    obtain ⟨h1, h2⟩ := hc he
    rw [beq_false_of_ne h1, beq_false_of_ne h2]
    rfl
  · rwa [step_of_isCode h.isCode]

/-- In the text of a literal so is a character that starts neither an escape nor a substitution. -/
theorem Leads.text {outer : List Int} {c : Char} (hb : c ≠ '\\')
    (hc : c = '$' → (w ++ x).head? ≠ some '{')
    (hs : (stepText ⟨.code, 0 :: outer⟩ outer c none).state.Leads w x s') :
    Leads ⟨.code, 0 :: outer⟩ (c :: w) x s' := by
  refine .single ?_ hs
  have hw := wide_stepText ⟨.code, 0 :: outer⟩ outer c (w ++ x).head?
  rw [beq_false_of_ne hb, Bool.false_and, Bool.false_or] at hw
  rw [← wide_step]
  refine hw.trans ?_
  rw [Bool.and_eq_false_imp, beq_iff_eq]
  intro he
  exact beq_false_of_ne (hc he)

theorem stepCode_of_not_mem {c : Char} (h : c ∉ ['\x27', '\x22', '\x60', '{', '}'])
    (s : LexState) : (s.stepCode c none).state = s := by
  simp only [List.mem_cons, List.not_mem_nil, or_false, not_or] at h
  simp [stepCode, h]

theorem stepText_of_not_mem {c : Char} (h : c ∉ ['\x60', '\\']) (outer : List Int) :
    (stepText ⟨.code, 0 :: outer⟩ outer c none).state = ⟨.code, 0 :: outer⟩ := by
  simp only [List.mem_cons, List.not_mem_nil, or_false, not_or] at h
  simp [stepText, h]

/-- From code through a literal in quotes and on. -/
theorem InCode.leads_quoted {s : LexState} (hs : s.InCode) {q : Char} (hq : q = '\x27' ∨ q = '\x22')
    {v : Text} (hv : InQuotes q v) (h : s.Leads w x s') : s.Leads (q :: (v ++ q :: w)) x s' := by
  have hn : q ≠ '/' := by rcases hq with rfl | rfl <;> decide
  have ho : (s.stepCode q none).state = ⟨quotedRegion q, s.literals⟩ := by
    rcases hq with rfl | rfl <;> rfl
  refine .code hs (fun he => absurd he hn) ?_
  rw [ho]
  refine .quoted hq hv ?_
  rwa [hs.code_literals]

theorem InCode.leads_lineComment {s : LexState} (hs : s.InCode) {v : Text} {c : Char}
    (hv : ∀ d ∈ v, isLineEnd d = false) (hc : isLineEnd c = true) (h : s.Leads w x s') :
    s.Leads ('/' :: '/' :: (v ++ c :: w)) x s' := by
  refine .pair (by simp [atPair_code hs]) ?_
  rw [step_of_isCode hs.isCode]
  have hl : Leads ⟨.code, s.literals⟩ w x s' := by rwa [hs.code_literals]
  exact .lineComment hv hc hl

theorem InCode.leads_blockComment {s : LexState} (hs : s.InCode) {v : Text}
    (hv : ¬ ['*', '/'] <:+: v) (h : s.Leads w x s') :
    s.Leads ('/' :: '*' :: (v ++ '*' :: '/' :: w)) x s' := by
  refine .pair (by simp [atPair_code hs]) ?_
  rw [step_of_isCode hs.isCode]
  exact .blockComment (code_of_isCode hs.isCode).1 hv h

theorem InCode.leads_open {s : LexState} (hs : s.InCode) (h : (s.addDepth 1).Leads w x s') :
    s.Leads ('{' :: w) x s' := .code hs (fun he => absurd he (by decide)) h

theorem InCode.leads_close {s : LexState} (hs : s.InCode) (h : (s.addDepth (-1)).Leads w x s') :
    s.Leads ('}' :: w) x s' := .code hs (fun he => absurd he (by decide)) h

theorem InCode.leads_backtick {s : LexState} (hs : s.InCode)
    (h : Leads ⟨.code, 0 :: s.literals⟩ w x s') : s.Leads ('\x60' :: w) x s' := by
  refine .code hs (fun he => absurd he (by decide)) ?_
  have ho : (s.stepCode '\x60' none).state = ⟨s.region, 0 :: s.literals⟩ := rfl
  rwa [ho, (code_of_isCode hs.isCode).1]

/-- Where a word of the reading is read, and what may follow it there. -/
def Admits : Reading → LexState → Option Char → Prop
  | .code slash, s, next => s.InCode ∧ (slash = true → next ≠ some '/' ∧ next ≠ some '*')
  | .text, s, next => (∃ outer, s = ⟨.code, 0 :: outer⟩) ∧ next ≠ some '{'

/-- Nothing that a balanced word opens is left open. -/
theorem Leads.balanced {r : Reading} {v : Text} (hv : Balanced r v) {s : LexState}
    (ha : Admits r s (w ++ x).head?) (h : s.Leads w x s') : s.Leads (v ++ w) x s' := by
  induction hv generalizing s w x s' with
  | nil => exact h
  | @char b c v hc _ ih =>
    have hn : c ≠ '/' := by
      rintro rfl
      simp at hc
    refine .code ha.1 (fun he => absurd he hn) ?_
    rw [stepCode_of_not_mem (by simp_all)]
    exact ih ha h
  | lastSlash =>
    refine .code ha.1 (fun _ => ha.2 rfl) ?_
    rw [stepCode_of_not_mem (by decide)]
    exact h
  | slash h1 h2 _ ih =>
    refine .code ha.1 (fun _ => by simp [h1, h2]) ?_
    rw [stepCode_of_not_mem (by decide)]
    exact ih ha h
  | quoted hq hv _ ih =>
    rw [List.cons_append, List.append_assoc]
    exact ha.1.leads_quoted hq hv (ih ha h)
  | lineComment hv hc _ ih =>
    rw [List.cons_append, List.cons_append, List.append_assoc]
    exact ha.1.leads_lineComment hv hc (ih ha h)
  | blockComment hv _ ih =>
    rw [List.cons_append, List.cons_append, List.append_assoc]
    exact ha.1.leads_blockComment hv (ih ha h)
  | braces _ _ ihv ihw =>
    obtain ⟨hd, hb⟩ := ha.1.addDepth
    rw [List.cons_append, List.append_assoc]
    refine ha.1.leads_open (ihv ⟨hd, fun _ => by simp⟩ (hd.leads_close ?_))
    rw [hb]
    exact ihw ha h
  | @template b v u _ _ ihv ihw =>
    rw [List.cons_append, List.append_assoc]
    refine ha.1.leads_backtick (ihv ⟨⟨s.literals, rfl⟩, by simp⟩ ?_)
    refine .text (by decide) (fun he => absurd he (by decide)) ?_
    have hl : Leads ⟨.code, s.literals⟩ (u ++ w) x s' := by
      rw [ha.1.code_literals]
      exact ihw ha h
    exact hl
  | textNil => exact h
  | textChar hc _ ih =>
    obtain ⟨outer, rfl⟩ := ha.1
    refine .text (by simp_all) (by simp_all) ?_
    rw [stepText_of_not_mem (by simp_all)]
    exact ih ha h
  | textEscape _ ih =>
    obtain ⟨outer, rfl⟩ := ha.1
    exact .pair rfl (ih ha h)
  | @textDollar v hn _ ih =>
    obtain ⟨outer, rfl⟩ := ha.1
    refine .text (by decide) ?_ ?_
    · intro _
      cases v with
      | nil => exact ha.2
      | cons c v => exact hn
    · rw [stepText_of_not_mem (by decide)]
      exact ih ha h
  | substitution _ _ ihv ihw =>
    obtain ⟨outer, rfl⟩ := ha.1
    have hs := inCode_substitution outer
    rw [List.cons_append, List.cons_append, List.append_assoc]
    refine .pair rfl (ihv ⟨hs, fun _ => by simp⟩ (hs.leads_close ?_))
    exact ihw ha h

end LexState

/-- A balanced word is transparent: where code is read, in whatever surroundings, stepping through
the word ends at its end, in the state in which it began. -/
theorem Balanced.transparent {w : Text} (hw : Balanced (.code false) w) (p q : Text)
    {s : LexState} (hs : s.InCode) :
    Relation.ReflTransGen (fun f g => f.step (p ++ w ++ q) = some g)
      (s.flags p.length) (s.flags (p.length + w.length)) ∧
    Scanner.moveTo ⟨p ++ w ++ q, p.length, s⟩ (p.length + w.length) =
      ⟨p ++ w ++ q, p.length + w.length, s⟩ := by
  have hl := LexState.Leads.balanced hw (w := []) ⟨hs, by simp⟩ (s.leads_nil q) 0
  have hr : s.read w.length (w ++ q) = (s, w.length) := by
    simpa [LexState.read_zero] using hl
  have hm : Scanner.moveTo ⟨p ++ w ++ q, p.length, s⟩ (p.length + w.length) =
      ⟨p ++ w ++ q, p.length + w.length, s⟩ := by
    have hn : ¬ p.length + w.length < p.length := by omega
    simp [Scanner.moveTo, hn, hr]
  have hreads := Scanner.reads_moveTo (t := p ++ w ++ q) s (Nat.le_add_right p.length w.length)
    (by simp)
  rw [hm] at hreads
  exact ⟨hreads.steps, hm⟩

/-- A literal with quotes, braces and a substitution in it and a comment after it, read in a
substitution of a literal inside another and between two slashes. -/
theorem Balanced.transparent_nested :
    let w := "\x60\\\x60$\x7b\x7b'\x7d'/\x7d\x7d$\x60/2//\x7d\n".toList
    Balanced (.code false) w ∧ LexState.InCode ⟨.code, [2, 1]⟩ ∧
    Relation.ReflTransGen (fun f g => f.step ("/".toList ++ w ++ "/".toList) = some g)
      (LexState.flags ⟨.code, [2, 1]⟩ 1) (LexState.flags ⟨.code, [2, 1]⟩ (1 + w.length)) ∧
    Scanner.moveTo ⟨"/".toList ++ w ++ "/".toList, 1, ⟨.code, [2, 1]⟩⟩ (1 + w.length) =
      ⟨"/".toList ++ w ++ "/".toList, 1 + w.length, ⟨.code, [2, 1]⟩⟩ := by
  intro w
  have hs : LexState.InCode ⟨.code, [2, 1]⟩ :=
    (LexState.inCode_iff _).mpr (Or.inr ⟨2, [1], by decide, rfl⟩)
  have hq : Balanced (.code true) ("'\x7d'/".toList) :=
    .quoted (Or.inl rfl) (.char (by decide) (by decide) .nil) .lastSlash
  have hb : Balanced (.code false) ("\x7b'\x7d'/\x7d".toList) := .braces hq .nil
  have ht : Balanced .text ("\\\x60$\x7b\x7b'\x7d'/\x7d\x7d$".toList) :=
    .textEscape (.substitution hb (.textDollar (by decide) .textNil))
  have hc : Balanced (.code false) ("//\x7d\n".toList) :=
    .lineComment (v := ['\x7d']) (by simp [isLineEnd]) (by decide) .nil
  have hw : Balanced (.code false) w :=
    .template ht (.slash (by decide) (by decide) (.char (by decide) hc))
  exact ⟨hw, hs, hw.transparent "/".toList "/".toList hs⟩

end TemplateGuard
