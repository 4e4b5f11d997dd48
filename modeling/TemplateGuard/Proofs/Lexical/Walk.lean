import TemplateGuard.Proofs.Lexical.Reading
import TemplateGuard.Proofs.Tag.Shape
import TemplateGuard.Wrapping

namespace TemplateGuard

/-- The state at the end of a text, all its tags passed over as single tokens. -/
def lexEnd (t : Text) : LexState :=
  (((Scanner.ofText t).passAll (findTags t)).2.advance t.length).2.state

/-- The spans of the tags among pieces of which the first stands at offset `n`. -/
def spansFrom (n : Nat) (ps : List (Piece TagKind)) : List TagSpan :=
  (Piece.located n ps).map fun (start, text, kind) => ⟨start, start + text.length, kind, text⟩

@[simp] theorem spansFrom_nil (n : Nat) : spansFrom n [] = [] := rfl

@[simp] theorem spansFrom_plain (n : Nat) (c : Char) (ps : List (Piece TagKind)) :
    spansFrom n (.plain c :: ps) = spansFrom (n + 1) ps := rfl

@[simp] theorem spansFrom_found (n : Nat) (x : Text) (k : TagKind) (ps : List (Piece TagKind)) :
    spansFrom n (.found x k :: ps) = ⟨n, n + x.length, k, x⟩ :: spansFrom (n + x.length) ps := rfl

/-- The state after a tag that starts in this state: in a comment it is read, elsewhere it is one
token. -/
def LexState.afterTag (s : LexState) (x : Text) : LexState :=
  if s.context = .comment then (s.read x.length x).1 else s

/-- The contexts of the tags among pieces and the state after the last piece, where `g` is the
stretch read since the state was reached. -/
def walk : LexState → Text → List (Piece TagKind) → List Context × LexState
  | s, g, [] => ([], (s.read g.length g).1)
  | s, g, .plain c :: ps => walk s (g ++ [c]) ps
  | s, g, .found x _ :: ps =>
    let here := (s.read g.length (g ++ x)).1
    (here.context :: (walk (here.afterTag x) [] ps).1, (walk (here.afterTag x) [] ps).2)

namespace LexState

theorem read_le (s : LexState) (g x : Text) : (s.read g.length (g ++ x)).2 ≤ g.length := by
  induction s, g using read_induction with
  | nil s => simp [read_zero]
  | last s c =>
    rw [List.length_singleton, List.singleton_append]
    cases hp : s.atPair (c :: x) with
    | true => simp [read_straddle hp]
    | false => simp [read_single hp, read_zero]
  | pair s c d g hp ih =>
    rw [read_append_pair hp]
    simpa using ih
  | single s c d g hp ih =>
    rw [read_append_single hp]
    simpa using ih

theorem atPair_before_tag {s : LexState} (h : s.context = .comment) (c : Char) (x : Text) :
    s.atPair (c :: '{' :: x) = false := by
  obtain ⟨region, literals⟩ := s
  cases region with
  | code =>
    simp only [context] at h
    split at h <;> simp_all
  | _ => simp_all [context, atPair]

/-- A stretch before a tag that stands in a comment is read to its end. -/
theorem read_of_comment {s : LexState} {g x : Text}
    (h : (s.read g.length (g ++ '{' :: x)).1.context = .comment) :
    (s.read g.length (g ++ '{' :: x)).2 = g.length := by
  induction s, g using read_induction with
  | nil s => simp [read_zero]
  | last s c =>
    rw [List.length_singleton, List.singleton_append] at h ⊢
    cases hp : s.atPair (c :: '{' :: x) with
    | false => rw [read_single hp, read_zero]
    | true =>
      rw [read_straddle hp] at h
      simp [atPair_before_tag h] at hp
  | pair s c d g hp ih =>
    rw [read_append_pair hp] at h ⊢
    simpa using ih h
  | single s c d g hp ih =>
    rw [read_append_single hp] at h ⊢
    simpa using ih h

end LexState

@[simp] theorem Scanner.text_pass (s : Scanner) (start stop : Nat) :
    (s.pass start stop).2.text = s.text := by
  simp only [pass]
  split
  · simp
  · unfold skipTo
    split <;> simp

theorem Scanner.text_passAll (s : Scanner) (spans : List TagSpan) :
    (s.passAll spans).2.text = s.text := by
  induction spans generalizing s with
  | nil => rfl
  | cons span spans ih =>
    rw [passAll]
    exact (ih _).trans (s.text_pass _ _)

theorem length_passAll (s : Scanner) (spans : List TagSpan) :
    (s.passAll spans).1.length = spans.length := by
  induction spans generalizing s with
  | nil => rfl
  | cons span spans ih => exact congrArg (· + 1) (ih _)

theorem moveTo_forward {t : Text} {p : Nat} (s : LexState) {g u : Text} (ht : t.drop p = g ++ u) :
    Scanner.moveTo ⟨t, p, s⟩ (p + g.length) =
      ⟨t, p + (s.read g.length (g ++ u)).2, (s.read g.length (g ++ u)).1⟩ := by
  have hn : ¬ p + g.length < p := by omega
  simp [Scanner.moveTo, hn, ht]

theorem pass_tag {t : Text} {p : Nat} (s : LexState) {k : TagKind} {g x u : Text}
    (hx : Tag.IsTag k x) (ht : t.drop p = g ++ (x ++ u)) :
    Scanner.pass ⟨t, p, s⟩ (p + g.length) (p + g.length + x.length) =
      ((s.read g.length (g ++ x)).1.context,
        ⟨t, p + g.length + x.length, (s.read g.length (g ++ x)).1.afterTag x⟩) := by
  obtain ⟨y, hy⟩ := hx.exists_cons
  have hr : s.read g.length (g ++ (x ++ u)) = s.read g.length (g ++ x) :=
    s.read_congr g (by simp [hy])
  have hle := s.read_le g x
  by_cases hc : (s.read g.length (g ++ x)).1.context = .comment
  · have hn : (s.read g.length (g ++ x)).2 = g.length := by
      rw [hy] at hc ⊢
      exact LexState.read_of_comment hc
    have ht' : t.drop (p + g.length) = x ++ u := by
      rw [← List.drop_drop, ht, List.drop_left]
    have hb : ∀ c ∈ x.getLast?, c = '}' := by
      obtain ⟨z, rfl⟩ := hx.exists_concat
      simp
    simp only [Scanner.pass, moveTo_forward s ht, hr, Scanner.context, hc, hn,
      moveTo_forward _ ht', LexState.read_brace _ hb, LexState.afterTag, if_true]
  · have hpos := List.length_pos_of_ne_nil hx.ne_nil
    have hgt : ((p + g.length + x.length : Nat) : Int) >
        ((p + (s.read g.length (g ++ x)).2 : Nat) : Int) := by omega
    simp only [Scanner.pass, moveTo_forward s ht, hr, Scanner.context, LexState.afterTag, if_neg hc,
      Scanner.skipTo, if_pos hgt, Int.toNat_natCast]

/-- Passing over the tags is walking the pieces. -/
theorem passAll_eq_walk {t : Text} {ps : List (Piece TagKind)}
    (hps : ∀ x k, .found x k ∈ ps → Tag.IsTag k x) {p : Nat} (s : LexState) {g : Text}
    (hp : p ≤ t.length) (ht : t.drop p = g ++ ps.flatMap Piece.source) :
    (Scanner.passAll ⟨t, p, s⟩ (spansFrom (p + g.length) ps)).1 = (walk s g ps).1 ∧
    ((Scanner.passAll ⟨t, p, s⟩ (spansFrom (p + g.length) ps)).2.moveTo t.length).state =
      (walk s g ps).2 := by
  induction ps generalizing p s g with
  | nil =>
    have hl : t.length - p = g.length := by
      rw [← List.length_drop, ht]
      simp
    refine ⟨rfl, ?_⟩
    simp [Scanner.passAll, Scanner.moveTo, Nat.not_lt.mpr hp, hl, ht, walk]
  | cons q ps ih =>
    have hps' : ∀ x k, .found x k ∈ ps → Tag.IsTag k x := fun x k h =>
      hps x k (List.mem_cons_of_mem q h)
    cases q with
    | plain c =>
      have h := ih hps' s hp (g := g ++ [c]) (by simpa [Piece.source] using ht)
      simpa [walk, Nat.add_assoc] using h
    | found x k =>
      have hx := hps x k List.mem_cons_self
      have ht' : t.drop p = g ++ (x ++ ps.flatMap Piece.source) := by simpa [Piece.source] using ht
      have hd : t.drop (p + g.length + x.length) = ps.flatMap Piece.source := by
        rw [← List.drop_drop, ← List.drop_drop, ht', List.drop_left, List.drop_left]
      have hl : p + g.length + x.length ≤ t.length := by
        have h := congrArg List.length ht'
        simp only [List.length_drop, List.length_append] at h
        omega
      obtain ⟨hc, hs⟩ := ih hps' ((s.read g.length (g ++ x)).1.afterTag x) hl (g := []) hd
      simp only [spansFrom_found, Scanner.passAll, pass_tag s hx ht', walk]
      exact ⟨congrArg _ hc, hs⟩

theorem passAll_cut (t : Text) :
    tagContexts t = (walk {} [] (Tag.pattern.cut t)).1 ∧
    (((Scanner.ofText t).passAll (findTags t)).2.moveTo t.length).state =
      (walk {} [] (Tag.pattern.cut t)).2 :=
  passAll_eq_walk (fun _ _ h => Tag.isTag_of_mem_cut t h) {} (g := []) (Nat.zero_le _)
    (Pattern.sources_cut Tag.pattern t).symm

theorem length_tagContexts (t : Text) : (tagContexts t).length = (findTags t).length :=
  length_passAll _ _

theorem tagContexts_eq_walk (t : Text) : tagContexts t = (walk {} [] (Tag.pattern.cut t)).1 :=
  (passAll_cut t).1

theorem lexEnd_eq_walk (t : Text) : lexEnd t = (walk {} [] (Tag.pattern.cut t)).2 := by
  have ht : ((Scanner.ofText t).passAll (findTags t)).2.text = t := Scanner.text_passAll _ _
  rw [← (passAll_cut t).2, lexEnd, Scanner.advance, ht, if_neg (by simp)]
  rfl

end TemplateGuard
