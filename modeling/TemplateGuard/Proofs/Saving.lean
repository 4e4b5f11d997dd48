import TemplateGuard.Proofs.Wrapping.RoundTrip
import TemplateGuard.Session

namespace TemplateGuard.Session

/-- One save: `shown` is what the editor holds and `written` what stands on disk afterwards. Gives
the answers before and after writing. -/
def save (s : Session) (id language : String) (shown written : Text) :
    Except Fault ((Answer × Answer) × Session) := do
  let asked ← s.act (.willSave id language shown)
  let told ← asked.session.act (.didSave id language written)
  return ((asked.answer, told.answer), told.session)

/-- The answers to `n` saves in a row. -/
def saves (id language : String) (shown written : Text) :
    Nat → Session → Except Fault (List (Answer × Answer))
  | 0, _ => .ok []
  | n + 1, s => do
    let (answers, next) ← s.save id language shown written
    return answers :: (← saves id language shown written n next)

/-- No save is going on, and the document is one that the session has wrapped. -/
structure Holding (s : Session) (id language : String) : Prop where
  enabled : s.enabled = true
  resting : s.saving = false
  target : s.languages.has language = .ok true
  wrapped : s.isWrapped id = true

theorem exists_of_map {α β : Type} {x : Except Fault α} {f : α → β} {b : β}
    (h : x.map f = .ok b) : ∃ a, x = .ok a ∧ f a = b := by
  cases x with
  | error e => simp [Except.map] at h
  | ok a => exact ⟨a, rfl, Except.ok.inj h⟩

theorem record_of_isWrapped {s : Session} {id : String} (h : s.isWrapped id = true) :
    s.record id = s := if_pos h

theorem isWrapped_record (s : Session) (id : String) : (s.record id).isWrapped id = true := by
  unfold record
  split
  · next h => exact h
  · simp [isWrapped]

theorem record_frame (s : Session) (id : String) :
    (s.record id).enabled = s.enabled ∧ (s.record id).saving = s.saving ∧
      (s.record id).languages = s.languages := by
  unfold record
  split <;> exact ⟨rfl, rfl, rfl⟩

/-- Opening asks for the language only when the session may wrap. -/
theorem opened_eq (s : Session) (id language : String) (t : Text) :
    s.opened id language t =
      if s.enabled && !s.saving then (s.languages.has language).map fun target =>
        if target then s.rewrap id t else { answer := .nothing, session := s }
      else .ok { answer := .nothing, session := s } := by
  unfold opened
  cases s.enabled <;> cases s.saving <;> cases s.languages.has language with
  | error f => rfl
  | ok target => cases target <;> rfl

theorem opened_of_target {s : Session} {language : String} (he : s.enabled = true)
    (hs : s.saving = false) (hl : s.languages.has language = .ok true) (id : String) (t : Text) :
    s.opened id language t = .ok (s.rewrap id t) := by
  rw [opened_eq, he, hs, hl]
  rfl

theorem willSave_eq (s : Session) (id language : String) (t : Text) :
    s.willSave id language t =
      if s.enabled then (s.languages.has language).map fun target =>
        if target && s.isWrapped id then
          { answer := if unwrap t = t then .nothing else .replacement (unwrap t),
            session := { s with saving := true } }
        else { answer := .nothing, session := s }
      else .ok { answer := .nothing, session := s } := by
  unfold willSave
  cases s.enabled <;> cases s.languages.has language with
  | error f => rfl
  | ok target => cases target <;> cases s.isWrapped id <;> rfl

theorem didSave_eq (s : Session) (id language : String) (t : Text) :
    s.didSave id language t =
      if s.enabled && s.saving then (s.languages.has language).map fun target =>
        if target then { s with saving := false }.rewrap id t
        else { answer := .nothing, session := s }
      else .ok { answer := .nothing, session := s } := by
  unfold didSave
  cases s.enabled <;> cases s.saving <;> cases s.languages.has language with
  | error f => rfl
  | ok target => cases target <;> rfl

theorem rewrap_of_changed (s : Session) (id : String) {t : Text} (hu : hasUnwrapped t = true)
    (hw : wrap t ≠ t) :
    (s.rewrap id t).answer = .replacement (wrap t) ∧ (s.rewrap id t).session = s.record id := by
  simp [rewrap, hu, hw]

theorem changed_of_rewrap {s : Session} {id : String} {t w : Text}
    (h : (s.rewrap id t).answer = .replacement w) :
    hasUnwrapped t = true ∧ wrap t ≠ t ∧ w = wrap t := by
  by_cases hu : hasUnwrapped t = true
  · by_cases hw : wrap t = t
    · simp [rewrap, hu, hw] at h
    · rw [(s.rewrap_of_changed id hu hw).1] at h
      exact ⟨hu, hw, (Answer.replacement.inj h).symm⟩
  · simp [rewrap, hu] at h

/-- A document that gets a replacement on opening is held by the session from then on. -/
theorem holding_of_opened {s : Session} {id language : String} {t w : Text} {r : Reply}
    (ho : s.opened id language t = .ok r) (hr : r.answer = .replacement w) :
    hasUnwrapped t = true ∧ wrap t ≠ t ∧ w = wrap t ∧ r.session.Holding id language := by
  rw [opened_eq] at ho
  split at ho
  · next hc =>
    simp only [Bool.and_eq_true, Bool.not_eq_true'] at hc
    obtain ⟨target, hl, ht⟩ := exists_of_map ho
    cases target with
    | false =>
      obtain rfl : { answer := .nothing, session := s } = r := ht
      exact absurd hr (by simp)
    | true =>
      obtain rfl : s.rewrap id t = r := ht
      obtain ⟨hu, hw, rfl⟩ := changed_of_rewrap hr
      obtain ⟨fe, fs, fl⟩ := s.record_frame id
      rw [(s.rewrap_of_changed id hu hw).2]
      exact ⟨hu, hw, rfl, fe.trans hc.1, fs.trans hc.2, by rw [fl, hl], s.isWrapped_record id⟩
  · obtain rfl := Except.ok.inj ho
    exact absurd hr (by simp)

/-- A save of a held document in its wrapped form leaves the session as it was. -/
theorem save_of_holding {s : Session} {id language : String} {t : Text}
    (h : s.Holding id language) (hu : hasUnwrapped t = true) (hw : wrap t ≠ t) :
    s.save id language (wrap t) t =
      .ok ((if unwrap (wrap t) = wrap t then .nothing else .replacement (unwrap (wrap t)),
        .replacement (wrap t)), s) := by
  obtain ⟨enabled, languages, wrapped, saving⟩ := s
  obtain rfl : enabled = true := h.enabled
  obtain rfl : saving = false := h.resting
  have hl : languages.has language = .ok true := h.target
  have hr := rewrap_of_changed ⟨true, languages, wrapped, false⟩ id hu hw
  have hask : willSave ⟨true, languages, wrapped, false⟩ id language (wrap t) = .ok
      { answer := if unwrap (wrap t) = wrap t then .nothing else .replacement (unwrap (wrap t)),
        session := ⟨true, languages, wrapped, true⟩ } := by
    rw [willSave_eq, h.wrapped, hl]
    rfl
  have htell : didSave ⟨true, languages, wrapped, true⟩ id language t =
      .ok (rewrap ⟨true, languages, wrapped, false⟩ id t) := by
    rw [didSave_eq, hl]
    rfl
  simp only [save, act, hask, htell, bind, Except.bind, pure, Except.pure, hr,
    record_of_isWrapped h.wrapped]

theorem saves_of_holding {s : Session} {id language : String} {t : Text}
    (h : s.Holding id language) (hu : hasUnwrapped t = true) (hw : wrap t ≠ t) (n : Nat) :
    saves id language (wrap t) t n s =
      .ok (List.replicate n (if unwrap (wrap t) = wrap t then .nothing
        else .replacement (unwrap (wrap t)), .replacement (wrap t))) := by
  induction n with
  | zero => rfl
  | succ n ih =>
    simp only [saves, save_of_holding h hu hw, bind, Except.bind, ih]
    rfl

/-- After a text without wrapped tags was opened and wrapped, any number of saves writes that text
and shows its wrapped form again, if and only if no comment front in the text swallows what wrapping
inserts behind it. -/
theorem saves_faithful_iff (s : Session) (id language : String) (t w : Text) (r : Reply)
    (hw : hasWrapped t = false) (ho : s.opened id language t = .ok r)
    (hr : r.answer = .replacement w) :
    (∀ n, saves id language w t n r.session =
      .ok (List.replicate n (.replacement t, .replacement w))) ↔
    ¬ Wrapping.Swallows (Wrapping.parts t) := by
  obtain ⟨hu, hc, rfl, hold⟩ := holding_of_opened ho hr
  have hback : unwrap (wrap t) = t ↔ ¬ Wrapping.Swallows (Wrapping.parts t) := by
    have hi := Wrapping.unwrap_after_iff (Wrapping.wholeTags_parts t) (by simpa using hw)
    simpa using hi
  rw [← hback]
  constructor
  · intro h
    have h1 := h 1
    rw [saves_of_holding hold hu hc] at h1
    simp only [List.replicate_one, Except.ok.injEq, List.cons.injEq, Prod.mk.injEq] at h1
    obtain ⟨⟨ha, -⟩, -⟩ := h1
    split at ha
    · simp at ha
    · exact Answer.replacement.inj ha
  · intro h n
    rw [saves_of_holding hold hu hc, h, if_neg (Ne.symm hc)]

theorem typescript_target : ({} : Session).languages.has "typescript" = .ok true := by
  simp [Languages.has, Languages.standard, Value.same]

/-- A front that no later tag completes does no harm: the tag behind it is of another kind. -/
theorem saves_faithful_other_kind :
    let t := "/* \x7b\x7b a \x7d\x7d x */ \x7b% b %\x7d".toList
    ∀ n, saves "a" "typescript" (wrap t) t n (({} : Session).rewrap "a" t).session =
      .ok (List.replicate n (.replacement t, .replacement (wrap t))) := by
  intro t
  have hu : hasUnwrapped t = true := by decide +kernel
  have hw : hasWrapped t = false := by decide +kernel
  have hc : wrap t ≠ t := by decide +kernel
  have hb : unwrap (wrap t) = t := by decide +kernel
  have ho := opened_of_target rfl rfl typescript_target "a" t
  have hr := (rewrap_of_changed {} "a" hu hc).1
  refine (saves_faithful_iff {} "a" "typescript" t _ _ hw ho hr).mpr ?_
  exact (Wrapping.unwrap_after_iff (Wrapping.wholeTags_parts t) (by simpa using hw)).mp
    (by simpa using hb)

/-- A comment that merely starts with a tag, and a tag of the same kind after it: the first save
writes a text that lacks the opening delimiter of the comment and keeps the inserted one. -/
theorem exists_unfaithful_save :
    ¬ ∀ (s : Session) (id language : String) (t w : Text) (r : Reply), s.enabled = true →
      s.saving = false → hasWrapped t = false → s.opened id language t = .ok r →
      r.answer = .replacement w → ∀ n, saves id language w t n r.session =
        .ok (List.replicate n (.replacement t, .replacement w)) := by
  intro h
  let t := "/* \x7b\x7b a \x7d\x7d x */ \x7b\x7b b \x7d\x7d".toList
  have hu : hasUnwrapped t = true := by decide +kernel
  have hw : hasWrapped t = false := by decide +kernel
  have hc : wrap t ≠ t := by decide +kernel
  have hb : unwrap (wrap t) = "\x7b\x7b a \x7d\x7d x */ /* \x7b\x7b b \x7d\x7d".toList := by
    decide +kernel
  have ho := opened_of_target rfl rfl typescript_target "a" t
  have hr := (rewrap_of_changed {} "a" hu hc).1
  have h1 := h {} "a" "typescript" t (wrap t) _ rfl rfl hw ho hr 1
  rw [saves_of_holding (holding_of_opened ho hr).2.2.2 hu hc] at h1
  simp only [List.replicate_one, Except.ok.injEq, List.cons.injEq, Prod.mk.injEq, hb] at h1
  exact absurd h1.1.1 (by decide +kernel)

end TemplateGuard.Session
