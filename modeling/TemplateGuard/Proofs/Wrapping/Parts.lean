import TemplateGuard.Proofs.Tag.WrappedShape
import TemplateGuard.Wrapping

namespace TemplateGuard.Wrapping

/-- A part of a text under wrapping; tags that stay are taken character by character. -/
inductive Part where
  | kept (c : Char)
  | enclosed (kind : TagKind) (tag : Text)
  deriving DecidableEq, Repr

namespace Part

def before : Part → Text
  | kept c => [c]
  | enclosed _ s => s

def after : Part → Text
  | kept c => [c]
  | enclosed _ s => enclose s

end Part

def before (ps : List Part) : Text := ps.flatMap Part.before

def after (ps : List Part) : Text := ps.flatMap Part.after

def keep (t : Text) : List Part := t.map .kept

@[simp] theorem before_nil : before [] = [] := rfl

@[simp] theorem after_nil : after [] = [] := rfl

theorem after_cons (p : Part) (ps : List Part) : after (p :: ps) = p.after ++ after ps := rfl

@[simp] theorem before_kept (c : Char) (ps : List Part) :
    before (.kept c :: ps) = c :: before ps := rfl

@[simp] theorem before_enclosed (k : TagKind) (s : Text) (ps : List Part) :
    before (.enclosed k s :: ps) = s ++ before ps := rfl

@[simp] theorem after_kept (c : Char) (ps : List Part) :
    after (.kept c :: ps) = c :: after ps := rfl

@[simp] theorem after_enclosed (k : TagKind) (s : Text) (ps : List Part) :
    after (.enclosed k s :: ps) = enclose s ++ after ps := rfl

@[simp] theorem before_append (ps qs : List Part) : before (ps ++ qs) = before ps ++ before qs :=
  List.flatMap_append

@[simp] theorem after_append (ps qs : List Part) : after (ps ++ qs) = after ps ++ after qs :=
  List.flatMap_append

@[simp] theorem keep_cons (c : Char) (t : Text) : keep (c :: t) = .kept c :: keep t := rfl

@[simp] theorem keep_append (s t : Text) : keep (s ++ t) = keep s ++ keep t := List.map_append

@[simp] theorem before_keep (t : Text) : before (keep t) = t := by
  induction t with
  | nil => rfl
  | cons c t ih => rw [keep_cons, before_kept, ih]

@[simp] theorem after_keep (t : Text) : after (keep t) = t := by
  induction t with
  | nil => rfl
  | cons c t ih => rw [keep_cons, after_kept, ih]

/-- The parts that pieces and decisions about the tags among them give. -/
def partsOf : List (Piece TagKind) → List Bool → List Part
  | [], _ => []
  | .plain c :: ps, ds => .kept c :: partsOf ps ds
  | .found s k :: ps, true :: ds => .enclosed k s :: partsOf ps ds
  | .found s _ :: ps, ds => keep s ++ partsOf ps ds.tail

/-- The parts into which `wrap` takes a text. -/
def parts (t : Text) : List Part := partsOf (Tag.pattern.cut t) (decisions t)

theorem before_partsOf (ps : List (Piece TagKind)) (ds : List Bool) :
    before (partsOf ps ds) = ps.flatMap Piece.source := by
  induction ps, ds using partsOf.induct with
  | case1 ds => simp [partsOf]
  | case2 c ps ds ih => simp [partsOf, Piece.source, ih]
  | case3 s k ps ds ih => simp [partsOf, Piece.source, ih]
  | case4 s k ps ds h ih =>
    rw [partsOf]
    · simp [Piece.source, ih]
    · exact h

theorem after_partsOf (ps : List (Piece TagKind)) (ds : List Bool) :
    after (partsOf ps ds) = assemble ps ds := by
  induction ps, ds using partsOf.induct with
  | case1 ds => simp [partsOf, assemble]
  | case2 c ps ds ih => simp [partsOf, assemble, ih]
  | case3 s k ps ds ih => simp [partsOf, assemble, ih]
  | case4 s k ps ds h ih =>
    rw [partsOf, assemble]
    · simp [ih]
    · exact h
    · exact h

@[simp] theorem before_parts (t : Text) : before (parts t) = t := by
  rw [parts, before_partsOf, Pattern.sources_cut]

@[simp] theorem after_parts (t : Text) : after (parts t) = wrap t := after_partsOf _ _

/-- Only whole tags are enclosed. -/
def WholeTags (ps : List Part) : Prop := ∀ k s, .enclosed k s ∈ ps → Tag.IsTag k s

theorem WholeTags.of_cons {p : Part} {ps : List Part} (h : WholeTags (p :: ps)) : WholeTags ps :=
  fun k s hm => h k s (List.mem_cons_of_mem p hm)

theorem wholeTags_partsOf {ps : List (Piece TagKind)}
    (h : ∀ s k, .found s k ∈ ps → Tag.IsTag k s) (ds : List Bool) : WholeTags (partsOf ps ds) := by
  induction ps, ds using partsOf.induct with
  | case1 ds =>
    intro k s hm
    simp [partsOf] at hm
  | case2 c ps ds ih =>
    intro k s hm
    have hm' : .enclosed k s ∈ partsOf ps ds := by simpa [partsOf] using hm
    exact ih (fun s k hs => h s k (List.mem_cons_of_mem _ hs)) k s hm'
  | case3 s' k' ps ds ih =>
    intro k s hm
    rw [partsOf] at hm
    rcases List.mem_cons.mp hm with he | hm
    · obtain ⟨rfl, rfl⟩ := Part.enclosed.inj he
      exact h s k List.mem_cons_self
    · exact ih (fun s k hs => h s k (List.mem_cons_of_mem _ hs)) k s hm
  | case4 s' k' ps ds hn ih =>
    intro k s hm
    rw [partsOf] at hm
    · rcases List.mem_append.mp hm with hm | hm
      · obtain ⟨c, -, he⟩ := List.mem_map.mp hm
        simp at he
      · exact ih (fun s k hs => h s k (List.mem_cons_of_mem _ hs)) k s hm
    · exact hn

theorem wholeTags_parts (t : Text) : WholeTags (parts t) :=
  wholeTags_partsOf (fun _ _ h => Tag.isTag_of_mem_cut t h) _

/-- What is inserted starts with a slash, so a head without one is kept text. -/
theorem exists_keep_of_after {ps : List Part} {p x : Text} (hp : '/' ∉ p) (h : after ps = p ++ x) :
    ∃ qs, ps = keep p ++ qs ∧ after qs = x := by
  induction p generalizing ps with
  | nil => exact ⟨ps, rfl, h⟩
  | cons c p ih =>
    cases ps with
    | nil => simp at h
    | cons q ps =>
      cases q with
      | kept d =>
        obtain ⟨rfl, ht⟩ := List.cons.inj h
        obtain ⟨qs, rfl, hx⟩ := ih (fun hm => hp (List.mem_cons_of_mem d hm)) ht
        exact ⟨qs, rfl, hx⟩
      | enclosed k s =>
        obtain ⟨rfl, -⟩ := List.cons.inj h
        exact absurd List.mem_cons_self hp

/-- A cut through the wrapped text falls between two parts or inside an enclosed tag. -/
theorem exists_split_of_after {ps : List Part} {u v : Text} (h : after ps = u ++ v) :
    (∃ a b, ps = a ++ b ∧ after a = u ∧ after b = v) ∨
    ∃ a k s b x y, ps = a ++ .enclosed k s :: b ∧ enclose s = x ++ y ∧ x ≠ [] ∧ y ≠ [] ∧
      u = after a ++ x ∧ v = y ++ after b := by
  induction ps generalizing u with
  | nil =>
    obtain ⟨rfl, rfl⟩ := List.append_eq_nil_iff.mp h.symm
    exact Or.inl ⟨[], [], rfl, rfl, rfl⟩
  | cons p ps ih =>
    rw [after_cons] at h
    rcases List.append_eq_append_iff.mp h with ⟨w, rfl, hw⟩ | ⟨w, hw, rfl⟩
    · rcases ih hw with ⟨a, b, rfl, ha, hb⟩ | ⟨a, k, s, b, x, y, rfl, he, hx, hy, rfl, rfl⟩
      · exact Or.inl ⟨p :: a, b, rfl, by rw [after_cons, ha], hb⟩
      · exact Or.inr ⟨p :: a, k, s, b, x, y, rfl, he, hx, hy, by simp [after_cons], rfl⟩
    · by_cases hu : u = []
      · subst hu
        exact Or.inl ⟨[], p :: ps, rfl, rfl, by rw [after_cons, hw]; rfl⟩
      by_cases hv : w = []
      · subst hv
        exact Or.inl ⟨[p], ps, rfl, by simpa [after_cons] using hw, by simp⟩
      cases p with
      | enclosed k s => exact Or.inr ⟨[], k, s, ps, u, w, rfl, hw, hu, hv, rfl, rfl⟩
      | kept c =>
        have hl := congrArg List.length hw
        have h1 := List.length_pos_of_ne_nil hu
        have h2 := List.length_pos_of_ne_nil hv
        simp only [Part.after, List.length_append, List.length_singleton] at hl
        omega

/-- A character that neither end holds cuts what lies between them. -/
theorem exists_of_between {p s q x y : Text} {c : Char} (hp : c ∉ p) (hq : c ∉ q)
    (h : p ++ (s ++ q) = x ++ c :: y) : ∃ x' y', s = x' ++ c :: y' ∧ x = p ++ x' ∧ y = y' ++ q := by
  have hx : ∃ x', x = p ++ x' := by
    rcases List.append_eq_append_iff.mp h with ⟨w, hw, -⟩ | ⟨w, hw, hc⟩
    · exact ⟨w, hw⟩
    · cases w with
      | nil => exact ⟨[], by simpa using hw.symm⟩
      | cons d w =>
        obtain ⟨rfl, -⟩ := List.cons.inj hc
        exact absurd (by rw [hw]; simp) hp
  obtain ⟨x', rfl⟩ := hx
  rw [List.append_assoc] at h
  rcases List.append_eq_append_iff.mp (List.append_cancel_left h) with ⟨w, -, hw⟩ | ⟨w, rfl, hw⟩
  · exact absurd (by rw [hw]; simp) hq
  · cases w with
    | nil => exact absurd (by rw [← List.nil_append q, ← hw]; simp) hq
    | cons d w =>
      obtain ⟨rfl, rfl⟩ := List.cons.inj hw
      exact ⟨x', w, rfl, rfl, rfl⟩

/-- Wrapping makes no closer: one in the wrapped text is kept, or stands in an enclosed tag. -/
theorem closer_in_after {ps : List Part} {k : TagKind} {u v : Text}
    (h : after ps = u ++ (k.closer ++ v)) :
    (∃ a b, ps = a ++ (keep k.closer ++ b) ∧ after a = u ∧ after b = v) ∨
    ∃ a k' x y b, ps = a ++ .enclosed k' (x ++ k.closer ++ y) :: b ∧
      u = after a ++ ['/', '*', ' '] ++ x ∧ v = y ++ [' ', '*', '/'] ++ after b := by
  have hs : '/' ∉ k.closer := by cases k <;> decide
  have hp : k.closeMark ∉ ['/', '*', ' '] := by cases k <;> decide
  have hq : k.closeMark ∉ [' ', '*', '/'] := by cases k <;> decide
  rcases exists_split_of_after h with
    ⟨a, b, rfl, rfl, hb⟩ | ⟨a, k', s, b, x, y, rfl, he, -, hy, rfl, hv⟩
  · obtain ⟨b, rfl, rfl⟩ := exists_keep_of_after hs hb
    exact Or.inl ⟨a, b, rfl, rfl, rfl⟩
  · obtain ⟨c, y, rfl⟩ := List.exists_cons_of_ne_nil hy
    obtain rfl : k.closeMark = c := (List.cons.inj hv).1
    have hd : '}' :: v = y ++ after b := (List.cons.inj hv).2
    rw [enclose, List.append_assoc] at he
    obtain ⟨x, z, rfl, rfl, rfl⟩ := exists_of_between hp hq he
    -- The closer's second character is no blank, so it stands in the tag too.
    cases z with
    | nil => simp at hd
    | cons d z =>
      obtain rfl : '}' = d := (List.cons.inj hd).1
      obtain rfl : v = z ++ [' ', '*', '/'] ++ after b := (List.cons.inj hd).2
      exact Or.inr ⟨a, k', x, z, b, by simp [TagKind.closer], by simp, rfl⟩

theorem closer_infix_before {ps : List Part} {k : TagKind} (h : k.closer <:+: after ps) :
    k.closer <:+: before ps := by
  obtain ⟨u, v, h⟩ := h
  rw [List.append_assoc] at h
  rcases closer_in_after h.symm with ⟨a, b, rfl, -, -⟩ | ⟨a, k', x, y, b, rfl, -, -⟩
  · exact ⟨before a, before b, by simp⟩
  · exact ⟨before a ++ x, y ++ before b, by simp⟩

end TemplateGuard.Wrapping
