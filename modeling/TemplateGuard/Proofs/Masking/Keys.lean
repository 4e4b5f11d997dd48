import Mathlib.Data.List.Basic
import Mathlib.Data.List.Chain
import TemplateGuard.Vault

namespace TemplateGuard

/-- The kinds of key that masking makes. -/
inductive KeyKind where
  | wrapped
  | bare
  deriving DecidableEq, Repr

namespace KeyKind

def name : KeyKind → Text
  | .wrapped => Placeholder.wrappedKind
  | .bare => Placeholder.bareKind

/-- The kinds are told apart by the first letters of their names. -/
def letter : KeyKind → Char
  | .wrapped => 'W'
  | .bare => 'P'

theorem name_eq (k : KeyKind) : ∃ l, k.name = k.letter :: l := by
  cases k with
  | wrapped => exact ⟨_, rfl⟩
  | bare => exact ⟨_, rfl⟩

end KeyKind

/-- What a key refers to, as its kind and number. -/
structure Ref where
  kind : KeyKind
  number : Nat
  deriving DecidableEq, Repr

/-- The text `DJANGO_`, which is reserved for keys. -/
def marker : Text := ['D', 'J', 'A', 'N', 'G', 'O', '_']

theorem start_eq : "__DJANGO_".toList = '_' :: '_' :: marker := rfl

theorem takeWhile_of_not_mem {l : Text} (h : '_' ∉ l) (z : Text) :
    (l ++ '_' :: z).takeWhile (· != '_') = l := by
  rw [List.takeWhile_append_of_pos, List.takeWhile_cons_of_neg, List.append_nil]
  · simp
  · intro c hc
    have hn : c ≠ '_' := fun e => h (e ▸ hc)
    simpa using hn

/-- Not both underscores. -/
def Spaced (a b : Char) : Prop := ¬ (a = '_' ∧ b = '_')

instance : DecidableRel Spaced := fun a b => inferInstanceAs (Decidable (¬ (a = '_' ∧ b = '_')))

namespace Ref

def key (r : Ref) : Text := Placeholder.keyOf r.kind.name r.number

/-- A key without the two underscores at each end. -/
def stem (r : Ref) : Text := marker ++ r.kind.name ++ ['_'] ++ Nat.toDigits 10 r.number

theorem key_eq (r : Ref) : r.key = '_' :: '_' :: (r.stem ++ ['_', '_']) := by
  unfold key Placeholder.keyOf stem
  rw [start_eq]
  simp only [List.cons_append, List.append_assoc]

theorem key_ne_nil (r : Ref) : r.key ≠ [] := by simp [key_eq]

theorem digits_injective {m n : Nat} (h : Nat.toDigits 10 m = Nat.toDigits 10 n) : m = n := by
  have hd := congrArg (fun ds => Nat.ofDigitChars 10 ds 0) h
  simpa using hd

/-- The number ends at the first underscore after it. -/
theorem number_eq_of_digits {m n : Nat} {x : Text}
    (h : Nat.toDigits 10 m ++ ['_', '_'] <+: Nat.toDigits 10 n ++ '_' :: x) : m = n := by
  obtain ⟨y, hy⟩ := h
  rw [List.append_assoc] at hy
  have hd := congrArg (List.takeWhile (· != '_')) hy
  rw [List.cons_append, takeWhile_of_not_mem Nat.underscore_not_in_toDigits,
    takeWhile_of_not_mem Nat.underscore_not_in_toDigits] at hd
  exact digits_injective hd

/-- Two keys that begin at the same place are the same. -/
theorem eq_of_key_at_head {r r' : Ref} {x : Text} (h : r.key <+: r'.key ++ x) : r = r' := by
  obtain ⟨k, m⟩ := r
  obtain ⟨k', n⟩ := r'
  simp only [key_eq, stem, List.cons_append, List.append_assoc, List.cons_prefix_cons, true_and,
    List.prefix_append_right_inj] at h
  have hk : k = k' := by
    obtain ⟨l, hl⟩ := k.name_eq
    obtain ⟨l', hl'⟩ := k'.name_eq
    simp only [hl, hl', List.cons_append, List.cons_prefix_cons] at h
    have hc := h.1
    cases k <;> cases k' <;> simp [KeyKind.letter] at hc ⊢
  subst hk
  simp only [List.prefix_append_right_inj, List.nil_append, List.cons_prefix_cons, true_and] at h
  rw [number_eq_of_digits h]

theorem key_injective {r r' : Ref} (h : r.key = r'.key) : r = r' :=
  eq_of_key_at_head (x := []) (by simp [h])

theorem spaced_of_not_mem {l : Text} (h : '_' ∉ l) : l.IsChain Spaced := by
  induction l with
  | nil => exact List.IsChain.nil
  | cons c l ih =>
    have hc : c ≠ '_' := fun e => h (by simp [e])
    exact List.isChain_cons.mpr ⟨fun d _ hd => hc hd.1, ih fun hm => h (List.mem_cons_of_mem c hm)⟩

/-- No two underscores stand side by side in a stem, nor where it begins or ends. -/
theorem spaced_stem (r : Ref) : ('_' :: (r.stem ++ ['_'])).IsChain Spaced := by
  have hd : '_' ∉ Nat.toDigits 10 r.number := Nat.underscore_not_in_toDigits
  have hl : (Nat.toDigits 10 r.number ++ ['_']).IsChain Spaced := by
    refine List.isChain_append.mpr ⟨spaced_of_not_mem hd, by simp, ?_⟩
    intro c hc _ _ hs
    exact hd (hs.1 ▸ List.mem_of_getLast? hc)
  have hf : ('_' :: (marker ++ r.kind.name ++ ['_'])).IsChain Spaced := by
    cases r.kind <;> decide +kernel
  have he : '_' :: (r.stem ++ ['_']) =
      '_' :: (marker ++ r.kind.name ++ ['_']) ++ (Nat.toDigits 10 r.number ++ ['_']) := by
    simp [stem]
  rw [he]
  refine List.isChain_append.mpr ⟨hf, hl, ?_⟩
  intro _ _ c hc hs
  cases hn : Nat.toDigits 10 r.number with
  | nil => exact Nat.toDigits_ne_nil hn
  | cons d ds =>
    obtain rfl : d = c := by simpa [hn] using hc
    exact hd (by rw [hn, hs.2]; simp)

/-- A key that begins inside another one has its stem, or all of itself but one underscore, right
behind that one. -/
theorem stem_of_key_inside {r r' : Ref} {a y x : Text} (ha : a ≠ []) (hy : y ≠ [])
    (he : r'.key = a ++ y) (h : r.key <+: y ++ x) : r.stem <+: x ∨ '_' :: r.stem <+: x := by
  obtain ⟨e, a, rfl⟩ := List.exists_cons_of_ne_nil ha
  obtain ⟨y, e', rfl⟩ := (List.eq_nil_or_concat' y).resolve_left hy
  have hs : '_' :: (r'.stem ++ ['_']) ++ ['_'] = a ++ y ++ [e'] := by
    rw [key_eq, List.cons_append] at he
    simpa using (List.cons.inj he).2
  obtain ⟨hu, hl⟩ := List.append_inj' hs rfl
  obtain rfl : '_' = e' := (List.cons.inj hl).1
  rw [key_eq] at h
  -- What is left of the outer key is one underscore, two, or a stretch that starts in its stem.
  match y with
  | [] =>
    obtain ⟨z, hz⟩ := (List.cons_prefix_cons.mp h).2
    exact Or.inr ⟨['_', '_'] ++ z, by simpa using hz⟩
  | [c] =>
    obtain ⟨z, hz⟩ := (List.cons_prefix_cons.mp (List.cons_prefix_cons.mp h).2).2
    exact Or.inl ⟨['_', '_'] ++ z, by simpa using hz⟩
  | c :: d :: y =>
    obtain ⟨rfl, hk⟩ := List.cons_prefix_cons.mp h
    obtain ⟨rfl, -⟩ := List.cons_prefix_cons.mp hk
    have hc := (spaced_stem r').suffix ⟨a, hu.symm⟩
    exact absurd ⟨rfl, rfl⟩ (List.isChain_cons_cons.mp hc).1

theorem stem_ne_nil (r : Ref) : r.stem ≠ [] := by simp [stem]

/-- No key occurs in another key. -/
theorem eq_of_key_infix {r r' : Ref} (h : r.key <:+: r'.key) : r = r' := by
  obtain ⟨a, b, he⟩ := h
  rw [List.append_assoc] at he
  have hb : r.key <+: r.key ++ b ++ [] := by
    rw [List.append_nil]
    exact List.prefix_append _ _
  by_cases ha : a = []
  · subst ha
    rw [← List.nil_append (r.key ++ b), he] at hb
    exact eq_of_key_at_head hb
  · have hn : r.key ++ b ≠ [] := by simp [key_ne_nil]
    rcases stem_of_key_inside ha hn he.symm hb with hs | hs
    · exact absurd (List.prefix_nil.mp hs) r.stem_ne_nil
    · exact absurd (List.prefix_nil.mp hs) (List.cons_ne_nil _ _)

/-- The number of a key that is not smaller has no fewer digits. -/
theorem length_digits_mono {m n : Nat} (h : m ≤ n) :
    (Nat.toDigits 10 m).length ≤ (Nat.toDigits 10 n).length := by
  have hk : 0 < (Nat.toDigits 10 n).length := Nat.length_toDigits_pos
  have hn := (Nat.length_toDigits_le_iff (n := n) (by decide) hk).mp (Nat.le_refl _)
  exact (Nat.length_toDigits_le_iff (by decide) hk).mpr (Nat.lt_of_le_of_lt h hn)

/-- The key of a bare tag is longer than the keys of the wrapped tags numbered before it. -/
theorem key_length_lt {m n : Nat} (h : m ≤ n) :
    (key ⟨.wrapped, m⟩).length < (key ⟨.bare, n⟩).length := by
  have hd := length_digits_mono h
  have hw : KeyKind.wrapped.name.length = 7 := by decide +kernel
  have hb : KeyKind.bare.name.length = 11 := by decide +kernel
  simp only [key_eq, stem, List.length_cons, List.length_append, hw, hb]
  omega

/-- A key is a substring of no other key, whatever the kinds and numbers, and the key of a bare tag
is longer than those of all wrapped tags that are numbered no later. -/
theorem keys_never_nest :
    (∀ (k k' : KeyKind) (m n : Nat),
      Text.hasInfix (Placeholder.keyOf k'.name n) (Placeholder.keyOf k.name m) = true ↔
        k = k' ∧ m = n) ∧
    ∀ m n, m ≤ n → (Placeholder.keyOf Placeholder.wrappedKind m).length <
      (Placeholder.keyOf Placeholder.bareKind n).length := by
  refine ⟨?nest, fun m n => key_length_lt⟩
  case nest =>
    intro k k' m n
    rw [Text.hasInfix_iff]
    constructor
    · intro h
      have hr : Ref.mk k m = Ref.mk k' n := eq_of_key_infix h
      exact Ref.mk.inj hr
    · rintro ⟨rfl, rfl⟩
      exact List.infix_refl _

/-- Numbers of which one begins the other, and numbers of different length. -/
theorem keys_never_nest_digits :
    Text.hasInfix (Placeholder.keyOf Placeholder.bareKind 110)
      (Placeholder.keyOf Placeholder.bareKind 11) = false ∧
    9 ≤ 10 ∧ (Placeholder.keyOf Placeholder.wrappedKind 9).length <
      (Placeholder.keyOf Placeholder.bareKind 10).length := by
  refine ⟨?_, by decide, keys_never_nest.2 9 10 (by decide)⟩
  rw [Bool.eq_false_iff]
  exact fun h => absurd ((keys_never_nest.1 .bare .bare 11 110).mp h) (by decide)

/-- Keys are made of letters, digits and underscores. -/
theorem isWord_of_mem_key {r : Ref} {c : Char} (h : c ∈ r.key) :
    (c.isAlphanum || c == '_') = true := by
  have hmarker : marker.all (fun d => d.isAlphanum || d == '_') = true := by decide
  have hname : r.kind.name.all (fun d => d.isAlphanum || d == '_') = true := by
    cases r.kind <;> decide
  simp only [key_eq, stem, List.mem_cons, List.mem_append, List.not_mem_nil, or_false] at h
  rcases h with rfl | rfl | ((((h | h) | rfl) | h) | rfl | rfl)
  · rfl
  · rfl
  · exact List.all_eq_true.mp hmarker c h
  · exact List.all_eq_true.mp hname c h
  · rfl
  · have hd : c.isDigit = true := Nat.isDigit_of_mem_toDigits (by decide) (by decide) h
    simp [Char.isAlphanum, hd]
  · rfl
  · rfl

/-- So they hold none of the characters of tag and comment delimiters. -/
theorem not_mem_key {c : Char} (hc : (c.isAlphanum || c == '_') = false) (r : Ref) : c ∉ r.key := by
  intro h
  rw [isWord_of_mem_key h] at hc
  exact Bool.noConfusion hc

end Ref

end TemplateGuard
