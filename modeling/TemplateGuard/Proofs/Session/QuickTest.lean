import TemplateGuard.Proofs.Masking.RoundTrip
import TemplateGuard.Proofs.Saving
import TemplateGuard.Proofs.Tag.Enclosure
import TemplateGuard.Proofs.Wrapping.Idempotence

namespace TemplateGuard

namespace Wrapping

theorem nearAny_of_mem {starts : List Nat} {n : Nat} (h : n ∈ starts) : nearAny starts n = true := by
  refine List.any_eq_true.mpr ⟨n, h, ?_⟩
  rw [Nat.sub_self]
  decide

/-- If every tag is enclosed, each is inside a wrapped tag, and none is wrapped again. -/
theorem wrap_eq_self_of_not_hasUnwrapped {t : Text} (ht : ¬ ['*', '/', '*'] <:+: t)
    (h : hasUnwrapped t = false) : wrap t = t := by
  rw [wrap_eq_self_iff]
  intro p hp _
  have hs : wrappedStarts t = (findTags t).map TagSpan.start := by
    rw [wrappedStarts, ← inner_findWrapped ht h, List.map_map]
    rfl
  rw [hs]
  exact nearAny_of_mem (List.mem_map_of_mem (List.of_mem_zip hp).1)

end Wrapping

namespace Session

/-- What an action does, without what it reports. -/
def Reply.outcome (r : Reply) : Answer × Session := (r.answer, r.session)

/-- Wraps a document's text without testing first whether some tag needs it. -/
def rewrapUntested (s : Session) (id : String) (t : Text) : Reply :=
  let w := wrap t
  if w = t then { answer := .nothing, session := s, events := [.wrapped (wrapCount t)] }
  else { answer := .replacement w, session := s.record id,
         events := [.wrapped (wrapCount t), .wrappedDocument id] }

/-- Opening a document where `rewrap` does the wrapping. -/
def openedBy (rewrap : Session → String → Text → Reply) (s : Session) (id language : String)
    (t : Text) : Except Fault Reply := do
  if !s.enabled || s.saving then return { answer := .nothing, session := s }
  if ← s.languages.has language then return rewrap s id t
  return { answer := .nothing, session := s }

/-- The end of a save where `rewrap` does the wrapping. -/
def didSaveBy (rewrap : Session → String → Text → Reply) (s : Session) (id language : String)
    (t : Text) : Except Fault Reply := do
  if !s.enabled || !s.saving then return { answer := .nothing, session := s }
  if ← s.languages.has language then return rewrap { s with saving := false } id t
  return { answer := .nothing, session := s }

theorem openedBy_rewrap : openedBy rewrap = opened := rfl

theorem didSaveBy_rewrap : didSaveBy rewrap = didSave := rfl

theorem outcome_openedBy {f g : Session → String → Text → Reply} {id : String} {t : Text}
    (h : ∀ s, (f s id t).outcome = (g s id t).outcome) (s : Session) (language : String) :
    (s.openedBy f id language t).map Reply.outcome =
      (s.openedBy g id language t).map Reply.outcome := by
  unfold openedBy
  cases s.enabled with
  | false => rfl
  | true =>
    cases s.saving with
    | true => rfl
    | false =>
      cases s.languages.has language with
      | error e => rfl
      | ok target =>
        cases target with
        | false => rfl
        | true => exact congrArg Except.ok (h s)

theorem outcome_didSaveBy {f g : Session → String → Text → Reply} {id : String} {t : Text}
    (h : ∀ s, (f s id t).outcome = (g s id t).outcome) (s : Session) (language : String) :
    (s.didSaveBy f id language t).map Reply.outcome =
      (s.didSaveBy g id language t).map Reply.outcome := by
  unfold didSaveBy
  cases s.enabled with
  | false => rfl
  | true =>
    cases s.saving with
    | false => rfl
    | true =>
      cases s.languages.has language with
      | error e => rfl
      | ok target =>
        cases target with
        | false => rfl
        | true => exact congrArg Except.ok (h _)

/-- The test makes no difference to a text that wrapping leaves as it is whenever the test lets it
pass. -/
theorem outcome_rewrap {t : Text} (h : hasUnwrapped t = false → wrap t = t) (s : Session)
    (id : String) : (s.rewrap id t).outcome = (s.rewrapUntested id t).outcome := by
  cases hu : hasUnwrapped t with
  | true => rw [rewrap, if_pos hu, rewrapUntested]
  | false => simp [rewrap, rewrapUntested, hu, h hu, Reply.outcome]

/-- Where no comment end is followed by a star, the quick test never keeps a tag from being wrapped:
if it finds no tag outside comment delimiters, wrapping changes nothing, and opening and saving give
the same answers and leave the same session as if there were no test. -/
theorem quick_test_misses_nothing (t : Text) (ht : t.hasInfix "*/*".toList = false) :
    (hasUnwrapped t = false → wrap t = t) ∧
    ∀ (s : Session) (id language : String),
      (s.opened id language t).map Reply.outcome =
        (s.openedBy rewrapUntested id language t).map Reply.outcome ∧
      (s.didSave id language t).map Reply.outcome =
        (s.didSaveBy rewrapUntested id language t).map Reply.outcome := by
  have hs : ¬ ['*', '/', '*'] <:+: t := (Text.hasInfix_eq_false_iff t _).mp ht
  have hw := fun h => Wrapping.wrap_eq_self_of_not_hasUnwrapped hs h
  refine ⟨hw, fun s id language => ⟨?_, ?_⟩⟩
  · exact outcome_openedBy (fun s => outcome_rewrap hw s id) s language
  · exact outcome_didSaveBy (fun s => outcome_rewrap hw s id) s language

/-- Delimiters in a string and behind a line comment, where they make no comment, and around a tag
that holds an opening itself. -/
theorem quick_test_misses_nothing_hidden :
    let t : Text := "'/*\x7b\x7b a \x7d\x7d */' //*\n\x7b% b %\x7d*/ /*\x7b# /* \x7b\x7b c #\x7d  */".toList
    t.hasInfix "*/*".toList = false ∧ hasUnwrapped t = false ∧
    tagContexts t = [.string, .plain, .comment] ∧ wrap t = t := by
  intro t
  have ht : t.hasInfix "*/*".toList = false := by decide +kernel
  have hu : hasUnwrapped t = false := by decide +kernel
  exact ⟨ht, hu, by decide +kernel, (quick_test_misses_nothing t ht).1 hu⟩

/-- A star behind a comment end makes the test take the tag for enclosed, while the slash belongs to
the wrapped tag before it. -/
example : let t := "/* \x7b\x7b a \x7d\x7d */* \x7b\x7b b \x7d\x7d */".toList
    hasUnwrapped t = false ∧ wrap t ≠ t := by decide +kernel

end Session

end TemplateGuard
