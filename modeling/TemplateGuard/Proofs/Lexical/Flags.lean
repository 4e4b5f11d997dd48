import Mathlib.Logic.Relation
import TemplateGuard.Proofs.Lexical.Queries

namespace TemplateGuard

/-- The character at an offset, if the text has that offset. -/
def Text.at? (t : Text) (i : Int) : Option Char := if 0 ≤ i then t[i.toNat]? else none

/-- The depth counts the braces open in the innermost substitution and is zero in the text of a
literal; the depths of the literals around it are on the stack, outermost first. -/
structure Flags where
  position : Int := 0
  singleQuote : Bool := false
  doubleQuote : Bool := false
  template : Bool := false
  depth : Int := 0
  lineComment : Bool := false
  blockComment : Bool := false
  stack : List Int := []
  deriving DecidableEq, Repr

namespace Flags

/-- Whether the two characters at the cursor are one token. -/
def atPair (t : Text) (f : Flags) : Bool :=
  match t.at? f.position, t.at? (f.position + 1) with
  | some c, some next =>
    if f.lineComment then false
    else if f.blockComment then c == '*' && next == '/'
    else if f.singleQuote || f.doubleQuote then c == '\\'
    else if f.template && f.depth == 0 then c == '\\' || (c == '$' && next == '{')
    else c == '/' && (next == '/' || next == '*')
  | _, _ => false

/-- A backtick in code opens a literal, inside the one whose depth it saves. -/
def openLiteral (f : Flags) : Flags :=
  { f with
    template := true
    depth := 0
    stack := if f.template then f.stack ++ [f.depth] else f.stack }

/-- A backtick in the text of a literal goes back to the depth saved last, if there is one. -/
def closeLiteral (f : Flags) : Flags :=
  match f.stack.getLast? with
  | some d => { f with depth := d, stack := f.stack.dropLast }
  | none => { f with template := false }

def one (f : Flags) : Flags := { f with position := f.position + 1 }

def two (f : Flags) : Flags := { f with position := f.position + 2 }

/-- A backslash hides the character after it, unless the text ends there. -/
def escape (f : Flags) (stop : Int) : Flags := { f with position := min (f.position + 2) stop }

def readQuoted (f : Flags) (stop : Int) (c : Char) : Flags :=
  if c = '\\' then f.escape stop
  else if c = '\x27' ∧ f.singleQuote then { f.one with singleQuote := false }
  else if c = '\x22' ∧ f.doubleQuote then { f.one with doubleQuote := false }
  else f.one

def readText (f : Flags) (stop : Int) (c : Char) (next : Option Char) : Flags :=
  if c = '\\' then f.escape stop
  else if c = '$' ∧ next = some '{' then { f.two with depth := 1 }
  else if c = '\x60' then f.one.closeLiteral
  else f.one

def readCode (f : Flags) (c : Char) (next : Option Char) : Flags :=
  if c = '/' ∧ next = some '/' then { f.two with lineComment := true }
  else if c = '/' ∧ next = some '*' then { f.two with blockComment := true }
  else if c = '\x27' then { f.one with singleQuote := true }
  else if c = '\x22' then { f.one with doubleQuote := true }
  else if c = '\x60' then f.one.openLiteral
  else if f.template ∧ c = '{' then { f.one with depth := f.depth + 1 }
  else if f.template ∧ c = '}' then { f.one with depth := f.depth - 1 }
  else f.one

/-- The flags after the token that starts with `c`, where `next` follows and the text ends at
`stop`. -/
def read (f : Flags) (stop : Int) (c : Char) (next : Option Char) : Flags :=
  if f.lineComment then if isLineEnd c then { f.one with lineComment := false } else f.one
  else if f.blockComment then
    if c = '*' ∧ next = some '/' then { f.two with blockComment := false } else f.one
  else if f.singleQuote ∨ f.doubleQuote then f.readQuoted stop c
  else if f.template ∧ f.depth = 0 then f.readText stop c next
  else f.readCode c next

/-- One step; where the text has no character at the cursor it fails. -/
def step (t : Text) (f : Flags) : Option Flags :=
  (t.at? f.position).map fun c => f.read t.length c (t.at? (f.position + 1))

/-- The loop that moves the cursor to an offset: it steps while the cursor lies before the offset
and stops short of a pair that straddles it. -/
inductive Reads (t : Text) (offset : Int) : Flags → Flags → Prop where
  | done {f : Flags} : offset ≤ f.position → Reads t offset f f
  | straddle {f : Flags} : f.position = offset - 1 → f.atPair t = true → Reads t offset f f
  | step {f g h : Flags} : f.position < offset → ¬ (f.position = offset - 1 ∧ f.atPair t = true) →
      f.step t = some g → Reads t offset g h → Reads t offset f h

/-- The loop is a number of steps. -/
theorem Reads.steps {t : Text} {offset : Int} {f g : Flags} (h : Reads t offset f g) :
    Relation.ReflTransGen (fun f g => f.step t = some g) f g := by
  induction h with
  | done => exact .refl
  | straddle => exact .refl
  | step _ _ hs _ ih => exact .head hs ih

theorem position_closeLiteral (f : Flags) : f.closeLiteral.position = f.position := by
  unfold closeLiteral
  split <;> rfl

theorem position_readQuoted (f : Flags) (stop : Int) (c : Char) :
    (f.readQuoted stop c).position = f.position + 1 ∨
    (f.readQuoted stop c).position = min (f.position + 2) stop := by
  unfold readQuoted
  split_ifs
  · exact Or.inr rfl
  all_goals exact Or.inl rfl

theorem position_readText (f : Flags) (stop : Int) (c : Char) (next : Option Char) :
    (f.readText stop c next).position = f.position + 1 ∨
    (f.readText stop c next).position = min (f.position + 2) stop ∨
    next.isSome ∧ (f.readText stop c next).position = f.position + 2 := by
  unfold readText
  split_ifs with he hs hb
  · exact Or.inr (Or.inl rfl)
  · exact Or.inr (Or.inr ⟨by simp [hs.2], rfl⟩)
  · exact Or.inl (position_closeLiteral f.one)
  · exact Or.inl rfl

theorem position_readCode (f : Flags) (c : Char) (next : Option Char) :
    (f.readCode c next).position = f.position + 1 ∨
    next.isSome ∧ (f.readCode c next).position = f.position + 2 := by
  unfold readCode
  split_ifs with hl hb
  · exact Or.inr ⟨by simp [hl.2], rfl⟩
  · exact Or.inr ⟨by simp [hb.2], rfl⟩
  all_goals exact Or.inl rfl

theorem position_read (f : Flags) (stop : Int) (c : Char) (next : Option Char) :
    (f.read stop c next).position = f.position + 1 ∨
    (f.read stop c next).position = min (f.position + 2) stop ∨
    next.isSome ∧ (f.read stop c next).position = f.position + 2 := by
  unfold read
  split_ifs with hl he hb hs hq ht
  · exact Or.inl rfl
  · exact Or.inl rfl
  · exact Or.inr (Or.inr ⟨by simp [hs.2], rfl⟩)
  · exact Or.inl rfl
  · exact (position_readQuoted f stop c).imp_right Or.inl
  · exact position_readText f stop c next
  · exact (position_readCode f c next).imp_right Or.inr

end Flags

/-- The flags that show a state with the cursor at `p`. -/
def LexState.flags (s : LexState) (p : Nat) : Flags where
  position := p
  singleQuote := s.region = .singleQuote
  doubleQuote := s.region = .doubleQuote
  template := s.inLiteral
  depth := s.depth
  lineComment := s.region = .lineComment
  blockComment := s.region = .blockComment
  stack := s.enclosing

theorem Text.at?_natCast (t : Text) (n : Nat) : t.at? n = t[n]? := by
  simp [Text.at?]

theorem Text.at?_natCast_succ (t : Text) (n : Nat) : t.at? (n + 1) = t[n + 1]? :=
  t.at?_natCast (n + 1)

theorem at?_of_drop {t u : Text} {p : Nat} {c : Char} (h : t.drop p = c :: u) :
    t.at? p = some c ∧ t.at? (p + 1) = u.head? := by
  have hc : t[p]? = some c := by
    rw [← List.head?_drop, h]
    rfl
  have hn : t.drop (p + 1) = u := by
    rw [← List.drop_drop, h]
    rfl
  rw [Text.at?_natCast, Text.at?_natCast_succ, hc, ← List.head?_drop, hn]
  exact ⟨rfl, rfl⟩

theorem Text.at?_eq_some {t : Text} {i : Int} {c : Char} (h : t.at? i = some c) :
    0 ≤ i ∧ i < t.length := by
  unfold Text.at? at h
  split_ifs at h with hi
  obtain ⟨hl, -⟩ := List.getElem?_eq_some_iff.mp h
  omega

/-- A step is taken at a character of the text, moves on by one or two and stays within the text. -/
theorem Flags.position_step {t : Text} {f g : Flags} (h : f.step t = some g) :
    0 ≤ f.position ∧ f.position < t.length ∧
    (g.position = f.position + 1 ∨ g.position = f.position + 2) ∧ g.position ≤ t.length := by
  obtain ⟨c, hc, rfl⟩ := Option.map_eq_some_iff.mp h
  obtain ⟨h0, hl⟩ := Text.at?_eq_some hc
  have hn : (t.at? (f.position + 1)).isSome → f.position + 1 < t.length := by
    intro hs
    obtain ⟨d, hd⟩ := Option.isSome_iff_exists.mp hs
    exact (Text.at?_eq_some hd).2
  rcases f.position_read t.length c (t.at? (f.position + 1)) with hp | hp | ⟨hs, hp⟩
  · omega
  · omega
  · have := hn hs
    omega

namespace LexState

theorem atPair_flags {t u : Text} {p : Nat} (s : LexState) (h : t.drop p = u) :
    (s.flags p).atPair t = s.atPair u := by
  cases u with
  | nil =>
    have hl : t.length ≤ p := List.drop_eq_nil_iff.mp h
    have hn : t.at? p = none := by rw [Text.at?_natCast, List.getElem?_eq_none hl]
    simp [Flags.atPair, flags, hn, atPair]
  | cons c u =>
    obtain ⟨hc, hn⟩ := at?_of_drop h
    obtain ⟨region, literals⟩ := s
    cases u with
    | nil => simp [Flags.atPair, flags, hc, hn, atPair]
    | cons d u =>
      cases region with
      | code =>
        rcases literals with _ | ⟨e, outer⟩
        · simp [Flags.atPair, flags, hc, hn, atPair, inLiteral]
        · by_cases he : e = 0 <;> simp [Flags.atPair, flags, hc, hn, atPair, inLiteral, depth, he]
      | _ => simp [Flags.atPair, flags, hc, hn, atPair]

/-- The cursor after a token at `p`. -/
def Step.stop (token : Step) (p : Nat) : Nat := p + if token.wide then 2 else 1

theorem escape_flags (s : LexState) {p stop : Nat} {next : Option Char} (hp : p < stop)
    (hn : next.isSome ↔ p + 1 < stop) :
    (s.flags p).escape stop = s.flags (Step.stop ⟨s, next.isSome⟩ p) := by
  have hm : min ((p : Int) + 2) stop = (Step.stop ⟨s, next.isSome⟩ p : Nat) := by
    unfold Step.stop
    split
    · next hs =>
      have := hn.mp hs
      omega
    · next hs =>
      have := mt hn.mpr hs
      omega
  simp only [Flags.escape, flags, hm]

theorem openLiteral_flags (literals : List Int) (p : Nat) :
    (flags ⟨.code, literals⟩ p).openLiteral = flags ⟨.code, 0 :: literals⟩ p := by
  cases literals with
  | nil => rfl
  | cons d outer =>
    have hs : enclosing ⟨.code, 0 :: d :: outer⟩ = enclosing ⟨.code, d :: outer⟩ ++ [d] :=
      List.reverse_cons
    simp only [flags, hs]
    rfl

theorem closeLiteral_flags (outer : List Int) (p : Nat) :
    (flags ⟨.code, 0 :: outer⟩ p).closeLiteral = flags ⟨.code, outer⟩ p := by
  cases outer with
  | nil => rfl
  | cons d outer =>
    have hs : (flags ⟨.code, 0 :: d :: outer⟩ p).stack = outer.reverse ++ [d] := List.reverse_cons
    simp only [Flags.closeLiteral, hs, List.getLast?_concat, List.dropLast_concat]
    rfl

theorem readQuoted_flags {quote : Char} {region : Region} (literals : List Int)
    (hr : region = .singleQuote ∧ quote = '\x27' ∨ region = .doubleQuote ∧ quote = '\x22')
    {p stop : Nat} {c : Char} {next : Option Char} (hp : p < stop)
    (hn : next.isSome ↔ p + 1 < stop) :
    (flags ⟨region, literals⟩ p).readQuoted stop c =
      (stepQuoted ⟨region, literals⟩ quote c next).state.flags
        ((stepQuoted ⟨region, literals⟩ quote c next).stop p) := by
  unfold stepQuoted Flags.readQuoted
  by_cases hc : c = '\\'
  · rw [if_pos hc, if_pos hc]
    exact escape_flags _ hp hn
  · rw [if_neg hc, if_neg hc]
    rcases hr with ⟨rfl, rfl⟩ | ⟨rfl, rfl⟩
    · have hd : ¬ (c = '\x22' ∧ (flags ⟨.singleQuote, literals⟩ p).doubleQuote) := by simp [flags]
      have hs : (flags ⟨.singleQuote, literals⟩ p).singleQuote := rfl
      simp only [if_neg hd, hs, and_true]
      split_ifs <;> rfl
    · have hd : (flags ⟨.doubleQuote, literals⟩ p).doubleQuote := rfl
      have hs : ¬ (c = '\x27' ∧ (flags ⟨.doubleQuote, literals⟩ p).singleQuote) := by simp [flags]
      simp only [if_neg hs, hd, and_true]
      split_ifs <;> rfl

theorem readText_flags (outer : List Int) {p stop : Nat} {c : Char} {next : Option Char}
    (hp : p < stop) (hn : next.isSome ↔ p + 1 < stop) :
    (flags ⟨.code, 0 :: outer⟩ p).readText stop c next =
      (stepText ⟨.code, 0 :: outer⟩ outer c next).state.flags
        ((stepText ⟨.code, 0 :: outer⟩ outer c next).stop p) := by
  unfold stepText Flags.readText
  split_ifs with hc hs hb
  · exact escape_flags _ hp hn
  · rfl
  · exact closeLiteral_flags outer (p + 1)
  · rfl

theorem readCode_flags (literals : List Int) (p : Nat) (c : Char) (next : Option Char) :
    (flags ⟨.code, literals⟩ p).readCode c next =
      (stepCode ⟨.code, literals⟩ c next).state.flags
        ((stepCode ⟨.code, literals⟩ c next).stop p) := by
  have ho : (flags ⟨.code, literals⟩ p).one.openLiteral = flags ⟨.code, 0 :: literals⟩ (p + 1) :=
    openLiteral_flags literals (p + 1)
  unfold stepCode Flags.readCode
  rw [ho]
  cases literals with
  | nil =>
    have ht : (flags ⟨.code, []⟩ p).template = false := rfl
    simp only [ht, Bool.false_eq_true, false_and, if_false]
    split_ifs <;> rfl
  | cons d outer =>
    have ht : (flags ⟨.code, d :: outer⟩ p).template = true := rfl
    simp only [ht, true_and]
    split_ifs <;> rfl

theorem read_flags (s : LexState) {p stop : Nat} {c : Char} {next : Option Char} (hp : p < stop)
    (hn : next.isSome ↔ p + 1 < stop) :
    (s.flags p).read stop c next = (s.step c next).state.flags ((s.step c next).stop p) := by
  obtain ⟨region, literals⟩ := s
  cases region with
  | lineComment =>
    show (if isLineEnd c then _ else _) = _
    unfold step
    split_ifs <;> rfl
  | blockComment =>
    show (if c = '*' ∧ next = some '/' then _ else _) = _
    unfold step
    split_ifs <;> rfl
  | singleQuote => exact readQuoted_flags literals (Or.inl ⟨rfl, rfl⟩) hp hn
  | doubleQuote => exact readQuoted_flags literals (Or.inr ⟨rfl, rfl⟩) hp hn
  | code =>
    rcases literals with _ | ⟨d, outer⟩
    · exact readCode_flags [] p c next
    · by_cases hd : d = 0
      · subst hd
        exact readText_flags outer hp hn
      · have hc : (flags ⟨.code, d :: outer⟩ p).read stop c next =
            (flags ⟨.code, d :: outer⟩ p).readCode c next := by
          simp [Flags.read, flags, inLiteral, depth, hd]
        have hs : step ⟨.code, d :: outer⟩ c next = stepCode ⟨.code, d :: outer⟩ c next := by
          simp [step, hd]
        rw [hc, hs]
        exact readCode_flags (d :: outer) p c next

/-- The flags take the same steps as the state that they show. -/
theorem step_flags (s : LexState) {t u : Text} {p : Nat} {c : Char} (h : t.drop p = c :: u) :
    (s.flags p).step t =
      some ((s.step c u.head?).state.flags ((s.step c u.head?).stop p)) := by
  obtain ⟨hc, hn⟩ := at?_of_drop h
  have hp : p < t.length := Int.ofNat_lt.mp (Text.at?_eq_some hc).2
  have hs : u.head?.isSome ↔ p + 1 < t.length := by
    rw [← hn, Text.at?_natCast_succ, isSome_getElem?]
  have hr := s.read_flags (c := c) hp hs
  unfold Flags.step
  show Option.map _ (t.at? p) = _
  rw [hc, Option.map_some]
  show some ((s.flags p).read t.length c (t.at? (p + 1))) = _
  rw [hn, hr]

theorem step_flags_pair {s : LexState} {t u : Text} {p : Nat} {c d : Char}
    (h : t.drop p = c :: d :: u) (hp : s.atPair [c, d] = true) :
    (s.flags p).step t = some ((s.step c (some d)).state.flags (p + 2)) := by
  have hw : (s.step c (some d)).wide = true := (wide_step s c [d]).trans hp
  have hs := s.step_flags h
  simpa [Step.stop, hw] using hs

theorem step_flags_single {s : LexState} {t u : Text} {p : Nat} {c : Char}
    (h : t.drop p = c :: u) (hp : s.atPair (c :: u) = false) :
    (s.flags p).step t = some ((s.step c none).state.flags (p + 1)) := by
  have hw : (s.step c u.head?).wide = false := (wide_step s c u).trans hp
  have hs := s.step_flags h
  simpa [Step.stop, hw, step_alone hp] using hs

/-- Reading a text from the cursor on is the loop over the flags. -/
theorem reads_read {t u : Text} {p : Nat} (s : LexState) {n : Nat} (h : t.drop p = u)
    (hn : n ≤ u.length) :
    Flags.Reads t (p + n : Nat) (s.flags p) ((s.read n u).1.flags (p + (s.read n u).2)) := by
  induction s, n, u using limit_induction generalizing p with
  | zero s u =>
    rw [read_zero]
    exact .done (by simp [flags])
  | nil s n =>
    obtain rfl : n = 0 := by simpa using hn
    rw [read_zero]
    exact .done (by simp [flags])
  | straddle s c u hp =>
    rw [read_straddle hp]
    exact .straddle (by simp [flags]) ((s.atPair_flags h).trans hp)
  | pair s c d n u hp ih =>
    have hd : t.drop (p + 2) = u := by rw [← List.drop_drop, h]; rfl
    have hi := ih hd (by simpa using hn)
    have hk := (Nat.add_right_comm p 2 ((s.step c (some d)).state.read n u).2).trans
      (Nat.add_assoc p _ 2)
    rw [hk, Nat.add_right_comm p 2 n, Nat.add_assoc] at hi
    rw [read_pair hp]
    refine .step ?before ?apart (step_flags_pair h hp) hi
    case before => simp only [flags]; omega
    case apart => simp only [flags]; omega
  | single s c n u hp ih =>
    have hd : t.drop (p + 1) = u := by rw [← List.drop_drop, h]; rfl
    have hi := ih hd (by simpa using hn)
    have hk := (Nat.add_right_comm p 1 ((s.step c none).state.read n u).2).trans
      (Nat.add_assoc p _ 1)
    rw [hk, Nat.add_right_comm p 1 n, Nat.add_assoc] at hi
    rw [read_single hp]
    refine .step ?before ?apart (step_flags_single h hp) hi
    case before => simp only [flags]; omega
    case apart =>
      rintro ⟨-, ha⟩
      rw [s.atPair_flags h, hp] at ha
      exact Bool.noConfusion ha

end LexState

namespace Scanner

/-- The state of a scanner as it is shown. -/
def flags (s : Scanner) : Flags := s.state.flags s.position

theorem reads_moveTo {t : Text} {p n : Nat} (s : LexState) (hp : p ≤ n) (hn : n ≤ t.length) :
    Flags.Reads t n (s.flags p) (moveTo ⟨t, p, s⟩ n).flags := by
  have hl : n - p ≤ (t.drop p).length := by
    rw [List.length_drop]
    omega
  have hr := s.reads_read rfl hl
  rw [Nat.add_sub_cancel' hp] at hr
  simpa [moveTo, Nat.not_lt.mpr hp, flags] using hr

/-- Advancing to an offset of the text is the loop, from the start if the offset lies behind. -/
theorem reads_advance (s : Scanner) {o : Int} (h0 : 0 ≤ o) (hl : o ≤ s.text.length) :
    Flags.Reads s.text o (if o < s.flags.position then {} else s.flags) (s.advance o).2.flags := by
  obtain ⟨n, rfl⟩ := Int.eq_ofNat_of_zero_le h0
  have hn : n ≤ s.text.length := Int.ofNat_le.mp hl
  have hi : ¬ ((n : Int) < 0 ∨ (n : Int) > s.text.length) := by omega
  have hm : (s.advance n).2 = s.moveTo n := by
    simp only [advance, if_neg hi, Int.toNat_natCast]
  rw [hm]
  by_cases hb : n < s.position
  · have hs : s.moveTo n = moveTo ⟨s.text, 0, {}⟩ n := by simp [moveTo, hb, reset, ofText]
    rw [hs, if_pos (by simpa [flags, LexState.flags] using hb)]
    exact reads_moveTo {} (Nat.zero_le n) hn
  · rw [if_neg (by simpa [flags, LexState.flags] using hb)]
    exact reads_moveTo s.state (Nat.le_of_not_lt hb) hn

end Scanner

end TemplateGuard
