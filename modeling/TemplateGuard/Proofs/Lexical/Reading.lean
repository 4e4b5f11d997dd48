import Mathlib.Tactic.Common
import TemplateGuard.Lexical.State

namespace TemplateGuard.LexState

/-- Whether a pair is read is decided by the two characters alone. -/
theorem atPair_congr (s : LexState) (c : Char) {t u : Text} (h : t.head? = u.head?) :
    s.atPair (c :: t) = s.atPair (c :: u) := by
  cases t with
  | nil =>
    cases u with
    | nil => rfl
    | cons d u => simp at h
  | cons d t =>
    cases u with
    | nil => simp at h
    | cons e u =>
      obtain rfl : d = e := by simpa using h
      rfl

theorem wide_stepQuoted (s : LexState) (quote c : Char) (next : Option Char) :
    (s.stepQuoted quote c next).wide = (c == '\\' && next.isSome) := by
  unfold stepQuoted
  split_ifs with h <;> simp [h]

theorem wide_stepText (s : LexState) (outer : List Int) (c : Char) (next : Option Char) :
    (s.stepText outer c next).wide =
      ((c == '\\' && next.isSome) || (c == '$' && next == some '{')) := by
  unfold stepText
  split_ifs with h hs <;> simp_all

theorem wide_stepCode (s : LexState) (c : Char) (next : Option Char) :
    (s.stepCode c next).wide = (c == '/' && (next == some '/' || next == some '*')) := by
  unfold stepCode
  split_ifs <;> simp_all

/-- The look ahead and the step agree on which tokens have two characters. -/
theorem wide_step (s : LexState) (c : Char) (t : Text) :
    (s.step c t.head?).wide = s.atPair (c :: t) := by
  obtain ⟨region, literals⟩ := s
  cases region with
  | lineComment => cases t <;> rfl
  | blockComment => cases t <;> simp only [step, atPair] <;> split_ifs <;> simp_all
  | singleQuote => cases t <;> simp [step, atPair, wide_stepQuoted]
  | doubleQuote => cases t <;> simp [step, atPair, wide_stepQuoted]
  | code =>
    simp only [step]
    split
    · cases t <;> simp [atPair, wide_stepText]
    · next hl => cases t <;> simp [atPair, wide_stepCode]

/-- A character that is a token by itself is read as if the text ended after it. -/
theorem step_alone {s : LexState} {c : Char} {t : Text} (h : s.atPair (c :: t) = false) :
    (s.step c t.head?).state = (s.step c none).state := by
  rw [← wide_step] at h
  obtain ⟨region, literals⟩ := s
  cases region with
  | lineComment => rfl
  | blockComment =>
    simp only [step] at h ⊢
    split_ifs at h ⊢ <;> simp_all
  | singleQuote =>
    simp only [step, wide_stepQuoted] at h ⊢
    unfold stepQuoted
    split_ifs <;> rfl
  | doubleQuote =>
    simp only [step, wide_stepQuoted] at h ⊢
    unfold stepQuoted
    split_ifs <;> rfl
  | code =>
    simp only [step] at h ⊢
    split at h
    · rw [wide_stepText] at h
      unfold stepText
      split_ifs <;> simp_all
    · rw [wide_stepCode] at h
      unfold stepCode
      split_ifs <;> simp_all

theorem read_nil (s : LexState) (n : Nat) : s.read n [] = (s, 0) := by
  cases n <;> rfl

theorem read_zero (s : LexState) (t : Text) : s.read 0 t = (s, 0) := by
  cases t <;> rfl

/-- A pair that would cross the end of the stretch is left unread. -/
theorem read_straddle {s : LexState} {c : Char} {t : Text} (h : s.atPair (c :: t) = true) :
    s.read 1 (c :: t) = (s, 0) := by
  simp [read, h]

theorem read_pair {s : LexState} {c d : Char} (h : s.atPair [c, d] = true) (n : Nat) (t : Text) :
    s.read (n + 2) (c :: d :: t) =
      (((s.step c (some d)).state.read n t).1, ((s.step c (some d)).state.read n t).2 + 2) := by
  have hw : (s.step c (some d)).wide = true := (wide_step s c [d]).trans h
  rw [read, if_neg (by simp)]
  simp [hw]

theorem read_single {s : LexState} {c : Char} {t : Text} (h : s.atPair (c :: t) = false)
    (n : Nat) :
    s.read (n + 1) (c :: t) =
      (((s.step c none).state.read n t).1, ((s.step c none).state.read n t).2 + 1) := by
  have hw : (s.step c t.head?).wide = false := (wide_step s c t).trans h
  rw [read, if_neg (by simp [h])]
  simp [hw, step_alone h]

theorem read_append_pair {s : LexState} {c d : Char} (h : s.atPair [c, d] = true) (g x : Text) :
    s.read (c :: d :: g).length (c :: d :: g ++ x) =
      (((s.step c (some d)).state.read g.length (g ++ x)).1,
        ((s.step c (some d)).state.read g.length (g ++ x)).2 + 2) :=
  read_pair h g.length (g ++ x)

theorem read_append_single {s : LexState} {c d : Char} (h : s.atPair [c, d] = false)
    (g x : Text) :
    s.read (c :: d :: g).length (c :: d :: g ++ x) =
      (((s.step c none).state.read (d :: g).length (d :: g ++ x)).1,
        ((s.step c none).state.read (d :: g).length (d :: g ++ x)).2 + 1) :=
  read_single (t := d :: g ++ x) h (d :: g).length

/-- Induction along the reading of a stretch: it is empty, or a last character, which may start a
pair with what follows, or it starts with a whole token. -/
theorem read_induction {motive : LexState → Text → Prop}
    (nil : ∀ s, motive s [])
    (last : ∀ s c, motive s [c])
    (pair : ∀ s c d t, s.atPair [c, d] = true → motive (s.step c (some d)).state t →
      motive s (c :: d :: t))
    (single : ∀ s c d t, s.atPair [c, d] = false → motive (s.step c none).state (d :: t) →
      motive s (c :: d :: t))
    (s : LexState) (t : Text) : motive s t :=
  match t with
  | [] => nil s
  | [c] => last s c
  | c :: d :: t =>
    match h : s.atPair [c, d] with
    | true => pair s c d t h (read_induction nil last pair single _ t)
    | false => single s c d t h (read_induction nil last pair single _ (d :: t))

/-- A stretch is read in the same way before all texts that start with the same character. -/
theorem read_congr (s : LexState) (g : Text) {x y : Text} (h : x.head? = y.head?) :
    s.read g.length (g ++ x) = s.read g.length (g ++ y) := by
  induction s, g using read_induction with
  | nil s => simp [read_zero]
  | last s c =>
    have he := atPair_congr s c h
    rw [List.length_singleton, List.singleton_append, List.singleton_append]
    cases hp : s.atPair (c :: x) with
    | true => rw [read_straddle hp, read_straddle (he ▸ hp)]
    | false => rw [read_single hp, read_single (he ▸ hp), read_zero, read_zero]
  | pair s c d g hp ih => rw [read_append_pair hp, read_append_pair hp, ih]
  | single s c d g hp ih => rw [read_append_single hp, read_append_single hp, ih]

/-- A stretch that is read to its end can be read first and what follows it then. -/
theorem read_append {s : LexState} {g x : Text} (h : (s.read g.length (g ++ x)).2 = g.length)
    (n : Nat) : (s.read (g.length + n) (g ++ x)).1 =
      ((s.read g.length (g ++ x)).1.read n x).1 := by
  induction s, g using read_induction with
  | nil s => simp [read_zero]
  | last s c =>
    rw [List.length_singleton, List.singleton_append] at h ⊢
    cases hp : s.atPair (c :: x) with
    | true => simp [read_straddle hp] at h
    | false => rw [Nat.add_comm, read_single hp, read_single hp, read_zero]
  | pair s c d g hp ih =>
    rw [read_append_pair hp] at h ⊢
    have hl : (c :: d :: g).length + n = g.length + n + 2 := by simp only [List.length_cons]; omega
    rw [hl, List.cons_append, List.cons_append, read_pair hp, ih (by simpa using h)]
  | single s c d g hp ih =>
    rw [read_append_single hp] at h ⊢
    have hl : (c :: d :: g).length + n = (d :: g).length + n + 1 := by
      simp only [List.length_cons]
      omega
    rw [hl, List.cons_append, read_single (t := d :: g ++ x) hp, ih (by simpa using h)]

theorem atPair_brace (s : LexState) (t : Text) : s.atPair ('}' :: t) = false := by
  obtain ⟨region, literals⟩ := s
  cases t with
  | nil => rfl
  | cons d t =>
    cases region <;> simp [atPair]
    split <;> simp

/-- No token straddles a closing brace, so a stretch that ends in one is read to its end, whatever
follows. -/
theorem read_brace (s : LexState) {u : Text} (h : ∀ c ∈ u.getLast?, c = '}') (x : Text) :
    s.read u.length (u ++ x) = ((s.read u.length u).1, u.length) := by
  suffices hu : ∀ y, s.read u.length (u ++ x) = ((s.read u.length (u ++ y)).1, u.length) by
    have hn := hu []
    rwa [List.append_nil] at hn
  intro y
  induction s, u using read_induction with
  | nil s => simp [read_zero]
  | last s c =>
    obtain rfl : c = '}' := h c rfl
    have hx := atPair_brace s x
    have hy := atPair_brace s y
    rw [List.length_singleton, List.singleton_append, List.singleton_append, read_single hx,
      read_single hy, read_zero, read_zero]
  | pair s c d u hp ih =>
    have hu : ∀ c ∈ u.getLast?, c = '}' := by
      cases u with
      | nil => simp
      | cons e u => simpa using h
    rw [read_append_pair hp, read_append_pair hp, ih hu]
    rfl
  | single s c d u hp ih =>
    rw [read_append_single hp, read_append_single hp, ih (by simpa using h)]
    rfl

end TemplateGuard.LexState
