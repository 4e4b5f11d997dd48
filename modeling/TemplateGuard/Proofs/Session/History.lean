import TemplateGuard.Proofs.Saving

namespace TemplateGuard.Session

/-- The session after an action; a fault leaves it as it was. -/
def next (s : Session) (a : Action) : Session :=
  match s.act a with
  | .ok r => r.session
  | .error _ => s

def answer (s : Session) (a : Action) : Except Fault Answer := (s.act a).map Reply.answer

/-- The session after actions, carried out one after the other. -/
def after (s : Session) (actions : List Action) : Session := actions.foldl next s

/-- Actions, each with the answer it gets when its turn comes. -/
def history : Session → List Action → List (Action × Except Fault Answer)
  | _, [] => []
  | s, a :: actions => (a, s.answer a) :: (s.next a).history actions

/-- What a history tells of a document: its wrapped text was handed out, or its record dropped. -/
inductive Mark where
  | wrapped
  | dropped
  deriving DecidableEq, Repr

/-- The mark that an answered action leaves on the document `id`. -/
def mark (id : String) : Action × Except Fault Answer → Option Mark
  | (.opened d _ _, .ok (.replacement _))
  | (.didSave d _ _, .ok (.replacement _))
  | (.wrapDocument d _, .ok (.changed _ true)) => if d = id then some .wrapped else none
  | (.unwrapDocument d _, .ok (.changed _ true))
  | (.forget d, _) => if d = id then some .dropped else none
  | _ => none

/-- Whether a document is recorded after a mark, or was before if there is none. -/
def markedWrapped (before : Bool) : Option Mark → Bool
  | some .wrapped => true
  | some .dropped => false
  | none => before

theorem isWrapped_record_eq (s : Session) (d id : String) : (s.record d).isWrapped id =
    markedWrapped (s.isWrapped id) (if d = id then some .wrapped else none) := by
  split_ifs with h
  · rw [h]
    exact s.isWrapped_record id
  · unfold record
    split_ifs
    · rfl
    · simp [isWrapped, markedWrapped, Ne.symm h]

theorem isWrapped_forget (s : Session) (d id : String) : (s.forget d).isWrapped id =
    markedWrapped (s.isWrapped id) (if d = id then some .dropped else none) := by
  split_ifs with h
  · simp [forget, isWrapped, markedWrapped, h]
  · simp [forget, isWrapped, markedWrapped, Ne.symm h]

/-- Wrapping a document anew either hands out its text and records it or does neither. -/
theorem rewrap_cases (s : Session) (d : String) (t : Text) :
    (s.rewrap d t).answer = .nothing ∧ (s.rewrap d t).session = s ∨
    ∃ w, (s.rewrap d t).answer = .replacement w ∧ (s.rewrap d t).session = s.record d := by
  by_cases hu : hasUnwrapped t = true
  · by_cases hw : wrap t = t
    · exact Or.inl (by simp [rewrap, hu, hw])
    · exact Or.inr ⟨wrap t, s.rewrap_of_changed d hu hw⟩
  · exact Or.inl (by simp [rewrap, hu])

theorem isWrapped_opened {s : Session} {d language : String} {t : Text} {r : Reply}
    (h : s.opened d language t = .ok r) (id : String) : r.session.isWrapped id =
      markedWrapped (s.isWrapped id) (mark id (.opened d language t, .ok r.answer)) := by
  rw [opened_eq] at h
  split at h
  · obtain ⟨target, -, rfl⟩ := exists_of_map h
    cases target with
    | false => rfl
    | true =>
      rw [if_pos rfl]
      rcases s.rewrap_cases d t with ⟨ha, hs⟩ | ⟨w, ha, hs⟩ <;> rw [ha, hs]
      · rfl
      · exact s.isWrapped_record_eq d id
  · obtain rfl := Except.ok.inj h
    rfl

theorem isWrapped_willSave {s : Session} {d language : String} {t : Text} {r : Reply}
    (h : s.willSave d language t = .ok r) (id : String) :
    r.session.isWrapped id = s.isWrapped id := by
  rw [willSave_eq] at h
  split at h
  · obtain ⟨target, -, rfl⟩ := exists_of_map h
    split <;> rfl
  · obtain rfl := Except.ok.inj h
    rfl

theorem isWrapped_didSave {s : Session} {d language : String} {t : Text} {r : Reply}
    (h : s.didSave d language t = .ok r) (id : String) : r.session.isWrapped id =
      markedWrapped (s.isWrapped id) (mark id (.didSave d language t, .ok r.answer)) := by
  rw [didSave_eq] at h
  split at h
  · obtain ⟨target, -, rfl⟩ := exists_of_map h
    cases target with
    | false => rfl
    | true =>
      rw [if_pos rfl]
      rcases rewrap_cases { s with saving := false } d t with ⟨ha, hs⟩ | ⟨w, ha, hs⟩ <;>
        rw [ha, hs]
      · rfl
      · exact isWrapped_record_eq { s with saving := false } d id
  · obtain rfl := Except.ok.inj h
    rfl

theorem isWrapped_wrapDocument (s : Session) (d id : String) (t : Text) :
    (s.wrapDocument d t).session.isWrapped id = markedWrapped (s.isWrapped id)
      (mark id (.wrapDocument d t, .ok (s.wrapDocument d t).answer)) := by
  by_cases h : wrap t = t
  · simp [wrapDocument, h, mark, markedWrapped]
  · have hb : (wrap t != t) = true := bne_iff_ne.mpr h
    simp only [wrapDocument, if_neg h, hb, mark]
    exact s.isWrapped_record_eq d id

theorem isWrapped_unwrapDocument (s : Session) (d id : String) (t : Text) :
    (s.unwrapDocument d t).session.isWrapped id = markedWrapped (s.isWrapped id)
      (mark id (.unwrapDocument d t, .ok (s.unwrapDocument d t).answer)) := by
  by_cases h : unwrap t = t
  · simp [unwrapDocument, h, mark, markedWrapped]
  · have hb : (unwrap t != t) = true := bne_iff_ne.mpr h
    simp only [unwrapDocument, if_neg h, hb, mark]
    exact s.isWrapped_forget d id

/-- One action changes the record of a document exactly as its mark says. -/
theorem isWrapped_next (s : Session) (a : Action) (id : String) :
    (s.next a).isWrapped id = markedWrapped (s.isWrapped id) (mark id (a, s.answer a)) := by
  unfold next answer
  cases hr : s.act a with
  | error e => cases a <;> first | rfl | cases hr
  | ok r =>
    show r.session.isWrapped id = markedWrapped _ (mark id (a, .ok r.answer))
    cases a with
    | opened d language t => exact isWrapped_opened hr id
    | willSave d language t => exact isWrapped_willSave hr id
    | didSave d language t => exact isWrapped_didSave hr id
    | wrapDocument d t =>
      obtain rfl := Except.ok.inj hr
      exact s.isWrapped_wrapDocument d id t
    | unwrapDocument d t =>
      obtain rfl := Except.ok.inj hr
      exact s.isWrapped_unwrapDocument d id t
    | forget d =>
      obtain rfl := Except.ok.inj hr
      exact s.isWrapped_forget d id
    | setEnabled b =>
      obtain rfl := Except.ok.inj hr
      rfl
    | isWrapped d =>
      obtain rfl := Except.ok.inj hr
      rfl
    | isTarget language =>
      obtain ⟨target, -, rfl⟩ := exists_of_map hr
      rfl

/-- A mark that others follow is overruled by them. -/
theorem markedWrapped_getLast?_cons (before : Bool) (m : Mark) (marks : List Mark) :
    markedWrapped before (m :: marks).getLast? =
      markedWrapped (markedWrapped before (some m)) marks.getLast? := by
  rw [List.getLast?_cons]
  cases marks.getLast? with
  | none => cases m <;> rfl
  | some l => cases l <;> rfl

/-- A document is recorded as its last mark says, and as it was if it has none. -/
theorem isWrapped_after (s : Session) (actions : List Action) (id : String) :
    (s.after actions).isWrapped id =
      markedWrapped (s.isWrapped id) ((s.history actions).filterMap (mark id)).getLast? := by
  induction actions generalizing s with
  | nil => rfl
  | cons a actions ih =>
    show ((s.next a).after actions).isWrapped id = _
    rw [ih, isWrapped_next, history, List.filterMap_cons]
    cases mark id (a, s.answer a) with
    | none => rfl
    | some m => exact (markedWrapped_getLast?_cons _ m _).symm

/-- Only a recorded document is given its bare text, and it stays recorded. -/
theorem isWrapped_of_willSave {s : Session} {id language : String} {t u : Text}
    (h : s.answer (.willSave id language t) = .ok (.replacement u)) :
    s.isWrapped id = true ∧ (s.next (.willSave id language t)).isWrapped id = true := by
  have hs : s.isWrapped id = true := by
    obtain ⟨r, hr, ha⟩ := exists_of_map h
    change s.willSave id language t = .ok r at hr
    rw [willSave_eq] at hr
    split at hr
    · obtain ⟨target, -, rfl⟩ := exists_of_map hr
      split at ha
      · next hc => exact (Bool.and_eq_true_iff.mp hc).2
      · cases ha
    · obtain rfl := Except.ok.inj hr
      cases ha
  refine ⟨hs, ?_⟩
  rw [isWrapped_next, h]
  exact hs

/-- In a session that started with nothing wrapped, a document is recorded if and only if of all the
actions that handed out its wrapped text or dropped its record the last one handed out text. A
document that is given its bare text for a save is recorded before and after. -/
theorem isWrapped_iff_history (enabled : Bool) (languages : Languages) (actions : List Action)
    (id : String) :
    let s : Session := { enabled := enabled, languages := languages }
    ((s.after actions).isWrapped id = true ↔
      ((s.history actions).filterMap (mark id)).getLast? = some .wrapped) ∧
    ∀ language t u, (s.after actions).answer (.willSave id language t) = .ok (.replacement u) →
      (s.after actions).isWrapped id = true ∧
      (s.after (actions ++ [.willSave id language t])).isWrapped id = true := by
  intro s
  refine ⟨?record, ?save⟩
  case record =>
    rw [isWrapped_after]
    have hs : s.isWrapped id = false := rfl
    rw [hs]
    cases ((s.history actions).filterMap (mark id)).getLast? with
    | none => simp [markedWrapped]
    | some m => cases m <;> simp [markedWrapped]
  case save =>
    intro language t u h
    have hn : s.after (actions ++ [.willSave id language t]) =
        (s.after actions).next (.willSave id language t) := List.foldl_append
    rw [hn]
    exact isWrapped_of_willSave h

/-- The session is off while a document is saved; what it is told of next wraps it again. -/
example :
    let t := "\x7b\x7b a \x7d\x7d".toList
    let actions : List Action := [.opened "a" "typescript" t, .willSave "a" "typescript" (wrap t),
      .setEnabled false, .didSave "a" "typescript" t, .unwrapDocument "a" (wrap t),
      .setEnabled true, .didSave "a" "typescript" t]
    (({} : Session).history actions).filterMap (mark "a") = [.wrapped, .dropped, .wrapped] := by
  decide +kernel

end TemplateGuard.Session
