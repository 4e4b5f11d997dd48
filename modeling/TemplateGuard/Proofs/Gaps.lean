import TemplateGuard.Proofs.Cutting

namespace TemplateGuard

namespace Text

/-- The stretches of a text from the offset `n` on: before the first range, between neighbours and
behind the last. -/
def gapsFrom (t : Text) : Nat → List (Nat × Nat) → List Text
  | n, [] => [t.drop n]
  | n, (start, stop) :: ranges => t.between n start :: gapsFrom t stop ranges

def gaps (t : Text) (ranges : List (Nat × Nat)) : List Text := gapsFrom t 0 ranges

/-- Gaps with something between every two neighbours. -/
def weave : List Text → List Text → Text
  | gap :: gaps, x :: xs => gap ++ (x ++ weave gaps xs)
  | gaps, _ => gaps.flatten

@[simp] theorem length_gapsFrom (t : Text) (n : Nat) (ranges : List (Nat × Nat)) :
    (t.gapsFrom n ranges).length = ranges.length + 1 := by
  induction ranges generalizing n with
  | nil => rfl
  | cons r ranges ih => simp [gapsFrom, ih]

end Text

namespace Piece

variable {α : Type}

/-- The gaps between the matches among pieces, where `g` is the stretch before the first piece. -/
def gaps : Text → List (Piece α) → List Text
  | g, [] => [g]
  | g, .plain c :: ps => gaps (g ++ [c]) ps
  | g, .found _ _ :: ps => g :: gaps [] ps

/-- The ranges of located matches. -/
def ranges (ms : List (Nat × Text × α)) : List (Nat × Nat) :=
  ms.map fun m => (m.1, m.1 + m.2.1.length)

/-- The gaps between the ranges of matches are those between the pieces. -/
theorem gapsFrom_located {t : Text} {n : Nat} {g : Text} {ps : List (Piece α)}
    (ht : t.drop n = g ++ ps.flatMap source) :
    t.gapsFrom n (ranges (located (n + g.length) ps)) = gaps g ps := by
  induction ps generalizing n g with
  | nil => simpa [ranges, located, Text.gapsFrom, gaps] using ht
  | cons p ps ih =>
    cases p with
    | plain c =>
      have hi := ih (n := n) (g := g ++ [c]) (by simpa [source] using ht)
      simpa [located, gaps, Nat.add_assoc] using hi
    | found x v =>
      have hb : t.between n (n + g.length) = g := by
        rw [Text.between, ht, Nat.add_sub_cancel_left, List.take_left]
      have hd : t.drop (n + g.length + x.length) = [] ++ ps.flatMap source := by
        rw [← List.drop_drop, ← List.drop_drop, ht, List.drop_left]
        exact List.drop_left
      have hi := ih hd
      simp only [List.length_nil, Nat.add_zero, ranges] at hi
      simp only [located, ranges, List.map_cons, Text.gapsFrom, gaps, hb, hi]

theorem weave_gaps_located (f : Text → α → Text) (n : Nat) (g : Text) (ps : List (Piece α)) :
    Text.weave (gaps g ps) ((located n ps).map fun m => f m.2.1 m.2.2) = g ++ rebuild f ps := by
  induction ps generalizing n g with
  | nil => simp [gaps, located, Text.weave, rebuild]
  | cons p ps ih =>
    cases p with
    | plain c =>
      rw [gaps, located, ih, rebuild, List.append_assoc]
      rfl
    | found x v =>
      rw [gaps, located, List.map_cons, Text.weave, ih, rebuild]
      rfl

theorem rebuild_source (ps : List (Piece α)) :
    rebuild (fun x _ => x) ps = ps.flatMap source := by
  induction ps with
  | nil => rfl
  | cons p ps ih =>
    cases p with
    | plain c => exact congrArg (c :: ·) ih
    | found x v => exact congrArg (x ++ ·) ih

end Piece

namespace Pattern

variable {α : Type} (p : Pattern α)

theorem gaps_locate (t : Text) : t.gaps (Piece.ranges (p.locate t)) = Piece.gaps [] (p.cut t) :=
  Piece.gapsFrom_located (g := []) (p.sources_cut t).symm

/-- Replacing puts what is made of each match between the gaps. -/
theorem replace_eq_weave (f : Text → α → Text) (t : Text) :
    p.replace f t =
      Text.weave (t.gaps (Piece.ranges (p.locate t)))
        ((p.locate t).map fun m => f m.2.1 m.2.2) := by
  rw [gaps_locate, locate, Piece.weave_gaps_located]
  rfl

/-- The gaps and the matches make up the text. -/
theorem weave_gaps (t : Text) :
    Text.weave (t.gaps (Piece.ranges (p.locate t))) ((p.locate t).map fun m => m.2.1) = t := by
  have h := p.replace_eq_weave (fun x _ => x) t
  rw [← h, replace, Piece.rebuild_source, sources_cut]

end Pattern

end TemplateGuard
