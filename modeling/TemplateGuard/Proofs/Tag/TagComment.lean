import TemplateGuard.Proofs.Tag.WrappedShape

namespace TemplateGuard

/-- Somewhere a comment opener is followed, blanks aside, by a tag opener. -/
def HasTagComment (t : Text) : Prop :=
  ∃ (a ws : Text) (k : TagKind) (b : Text), Blank ws ∧ t = a ++ (['/', '*'] ++ ws ++ k.opener ++ b)

/-- Whether the text starts with a comment opener, blanks and a tag opener. -/
def startsTagComment : Text → Bool
  | '/' :: '*' :: rest => (TagKind.ofTag? (Text.trimLeft rest)).isSome
  | _ => false

theorem startsTagComment_iff (t : Text) :
    startsTagComment t = true ↔
      ∃ (ws : Text) (k : TagKind) (b : Text), Blank ws ∧ t = ['/', '*'] ++ ws ++ k.opener ++ b := by
  constructor
  · intro h
    unfold startsTagComment at h
    split at h
    · next rest =>
      obtain ⟨k, hk⟩ := Option.isSome_iff_exists.mp h
      obtain ⟨b, hb⟩ := TagKind.ofTag?_eq_some_iff.mp hk
      have ht : rest = rest.takeWhile isBlank ++ Text.trimLeft rest :=
        (List.takeWhile_append_dropWhile).symm
      refine ⟨rest.takeWhile isBlank, k, b, Blank.of_takeWhile rest, ?_⟩
      rw [hb] at ht
      simpa using ht
    · simp at h
  · rintro ⟨ws, k, b, hw, rfl⟩
    have hb : isBlank '{' = false := by decide
    have ht : Text.trimLeft (ws ++ k.opener ++ b) = k.opener ++ b := by
      rw [Text.trimLeft, List.append_assoc, List.dropWhile_append_of_pos hw]
      simp [TagKind.opener, hb]
    have hk : TagKind.ofTag? (k.opener ++ b) = some k := TagKind.ofTag?_eq_some_iff.mpr ⟨b, rfl⟩
    simp only [List.cons_append, List.nil_append, startsTagComment, ht, hk, Option.isSome_some]

def hasTagComment : Text → Bool
  | [] => false
  | c :: t => startsTagComment (c :: t) || hasTagComment t

theorem hasTagComment_iff (t : Text) : hasTagComment t = true ↔ HasTagComment t := by
  induction t with
  | nil =>
    refine ⟨by simp [hasTagComment], ?_⟩
    rintro ⟨a, ws, k, b, -, h⟩
    simp at h
  | cons c t ih =>
    rw [hasTagComment, Bool.or_eq_true, startsTagComment_iff, ih]
    constructor
    · rintro (⟨ws, k, b, hw, h⟩ | ⟨a, ws, k, b, hw, rfl⟩)
      · exact ⟨[], ws, k, b, hw, h⟩
      · exact ⟨c :: a, ws, k, b, hw, rfl⟩
    · rintro ⟨a, ws, k, b, hw, h⟩
      cases a with
      | nil => exact Or.inl ⟨ws, k, b, hw, h⟩
      | cons d a => exact Or.inr ⟨a, ws, k, b, hw, (List.cons.inj h).2⟩

instance (t : Text) : Decidable (HasTagComment t) := decidable_of_iff _ (hasTagComment_iff t)

theorem hasTagComment_of_hasWrapped {t : Text} (h : hasWrapped t = true) : HasTagComment t := by
  obtain ⟨a, b, rfl, -, hp⟩ := (Pattern.matchesIn_iff _ _).mp h
  obtain ⟨m, hm⟩ := Option.isSome_iff_exists.mp hp
  obtain ⟨ws, k, body, tail, rest, hw, -, rfl, -⟩ := Wrapped.exists_of_pattern hm
  exact ⟨a, ws, k, body ++ k.closer ++ Wrapped.commentEnd tail ++ rest, hw, by simp⟩

theorem not_hasWrapped_of_not_hasTagComment {t : Text} (h : ¬ HasTagComment t) :
    hasWrapped t = false :=
  Bool.eq_false_iff.mpr (mt hasTagComment_of_hasWrapped h)

end TemplateGuard
