import TemplateGuard.Proofs.Session.History

namespace TemplateGuard

/-- One save of a document: what the editor holds when it begins and what stands on disk after. -/
structure Save where
  id : String
  language : String
  shown : Text
  written : Text
  deriving DecidableEq, Repr

/-- A save asks for the text to write, and tells when it is written. -/
inductive Half where
  | asks
  | tells
  deriving DecidableEq, Repr

namespace Save

def action (d : Save) : Half → Action
  | .asks => .willSave d.id d.language d.shown
  | .tells => .didSave d.id d.language d.written

def halves (d : Save) : List (Save × Half) := [(d, .asks), (d, .tells)]

/-- What a wrapped document is answered when no other save interferes. -/
def reply (d : Save) : Half → Answer
  | .asks => if unwrap d.shown = d.shown then .nothing else .replacement (unwrap d.shown)
  | .tells =>
    if hasUnwrapped d.written ∧ wrap d.written ≠ d.written then .replacement (wrap d.written)
    else .nothing

end Save

/-- A list holds the members of two others, each in its own order. -/
inductive Interleaving {α : Type} : List α → List α → List α → Prop where
  | nil : Interleaving [] [] []
  | left {x : α} {xs ys zs : List α} : Interleaving xs ys zs → Interleaving (x :: xs) ys (x :: zs)
  | right {y : α} {xs ys zs : List α} : Interleaving xs ys zs → Interleaving xs (y :: ys) (y :: zs)

theorem Interleaving.mem_or {α : Type} {xs ys zs : List α} (h : Interleaving xs ys zs) {z : α}
    (hz : z ∈ zs) : z ∈ xs ∨ z ∈ ys := by
  induction h with
  | nil => exact Or.inl hz
  | left _ ih =>
    rcases List.mem_cons.mp hz with rfl | hz
    · exact Or.inl List.mem_cons_self
    · exact (ih hz).imp_left (List.mem_cons_of_mem _)
  | right _ ih =>
    rcases List.mem_cons.mp hz with rfl | hz
    · exact Or.inr List.mem_cons_self
    · exact (ih hz).imp_right (List.mem_cons_of_mem _)

theorem Interleaving.of_nil_left {α : Type} {ys zs : List α} (h : Interleaving [] ys zs) :
    zs = ys := by
  induction ys generalizing zs with
  | nil =>
    cases h
    rfl
  | cons y ys ih =>
    cases h with
    | right h => rw [ih h]

theorem Interleaving.swap {α : Type} {xs ys zs : List α} (h : Interleaving xs ys zs) :
    Interleaving ys xs zs := by
  induction h with
  | nil => exact .nil
  | left _ ih => exact .right ih
  | right _ ih => exact .left ih

/-- Once one save has asked, it tells before the other begins, or the other asks before either of
them tells. -/
theorem Interleaving.after_asks {a b : Save} {order : List (Save × Half)}
    (h : Interleaving [(a, .tells)] b.halves order) : order = (a, .tells) :: b.halves ∨
      ∃ d e, order = [(b, .asks), (d, .tells), (e, .tells)] := by
  cases h with
  | left h => exact Or.inl (by rw [h.of_nil_left])
  | right h =>
    cases h with
    | left h => exact Or.inr ⟨a, b, by rw [h.of_nil_left]⟩
    | right h => exact Or.inr ⟨b, a, by rw [h.swap.of_nil_left]⟩

/-- Two saves follow one another, or both have asked before one of them tells. -/
theorem Interleaving.of_halves {a b : Save} {order : List (Save × Half)}
    (h : Interleaving a.halves b.halves order) :
    order = a.halves ++ b.halves ∨ order = b.halves ++ a.halves ∨
      ∃ c d e f, order = [(c, .asks), (d, .asks), (e, .tells), (f, .tells)] := by
  cases h with
  | left h =>
    rcases h.after_asks with rfl | ⟨d, e, rfl⟩
    · exact Or.inl rfl
    · exact Or.inr (Or.inr ⟨a, b, d, e, rfl⟩)
  | right h =>
    rcases h.swap.after_asks with rfl | ⟨d, e, rfl⟩
    · exact Or.inr (Or.inl rfl)
    · exact Or.inr (Or.inr ⟨b, a, d, e, rfl⟩)

namespace Session

/-- The document is wrapped and its language is one that is. -/
structure Tracks (s : Session) (d : Save) : Prop where
  target : s.languages.has d.language = .ok true
  wrapped : s.isWrapped d.id = true

/-- The answers to halves of saves, each when its turn comes. -/
def answers (s : Session) (calls : List (Save × Half)) : List (Except Fault Answer) :=
  (s.history (calls.map fun c => c.1.action c.2)).map Prod.snd

/-- The answer to a half of a save when that save is all that happens. -/
def alone (s : Session) : Save × Half → Except Fault Answer
  | (d, .asks) => s.answer (d.action .asks)
  | (d, .tells) => (s.next (d.action .asks)).answer (d.action .tells)

/-- The replies to halves of saves, given whether a save is going on when they begin. -/
def replies : Bool → List (Save × Half) → List Answer
  | _, [] => []
  | _, (d, .asks) :: calls => d.reply .asks :: replies true calls
  | saving, (d, .tells) :: calls =>
    (if saving then d.reply .tells else .nothing) :: replies false calls

theorem rewrap_of_isWrapped {s : Session} {id : String} (h : s.isWrapped id = true) (t : Text) :
    (s.rewrap id t).session = s ∧ (s.rewrap id t).answer =
      if hasUnwrapped t ∧ wrap t ≠ t then .replacement (wrap t) else .nothing := by
  unfold rewrap
  split_ifs <;> simp_all [record_of_isWrapped]

theorem act_asks {s : Session} {d : Save} (he : s.enabled = true) (h : s.Tracks d) :
    s.answer (d.action .asks) = .ok (d.reply .asks) ∧
      s.next (d.action .asks) = { s with saving := true } := by
  have hr : s.act (d.action .asks) = .ok ⟨d.reply .asks, { s with saving := true }, []⟩ := by
    show s.willSave d.id d.language d.shown = _
    rw [willSave_eq, he, h.target, h.wrapped]
    rfl
  simp [answer, next, hr, Except.map]

theorem act_tells {s : Session} {d : Save} (he : s.enabled = true) (h : s.Tracks d) :
    s.answer (d.action .tells) = .ok (if s.saving then d.reply .tells else .nothing) ∧
      s.next (d.action .tells) = { s with saving := false } := by
  obtain ⟨enabled, languages, wrapped, saving⟩ := s
  obtain rfl : enabled = true := he
  cases saving with
  | false => exact ⟨rfl, rfl⟩
  | true =>
    have hr : act ⟨true, languages, wrapped, true⟩ (d.action .tells) =
        .ok (rewrap ⟨true, languages, wrapped, false⟩ d.id d.written) := by
      show didSave _ d.id d.language d.written = _
      rw [didSave_eq, h.target]
      rfl
    have hw : isWrapped ⟨true, languages, wrapped, false⟩ d.id = true := h.wrapped
    obtain ⟨hs, ha⟩ := rewrap_of_isWrapped hw d.written
    simp only [answer, next, hr, Except.map, hs, ha]
    exact ⟨rfl, trivial⟩

theorem alone_eq {s : Session} {d : Save} (he : s.enabled = true) (h : s.Tracks d) (half : Half) :
    s.alone (d, half) = .ok (d.reply half) := by
  obtain ⟨ha, hn⟩ := act_asks he h
  cases half with
  | asks => exact ha
  | tells =>
    have ht : Tracks { s with saving := true } d := ⟨h.target, h.wrapped⟩
    show (s.next (d.action .asks)).answer (d.action .tells) = _
    rw [hn]
    exact (act_tells (s := { s with saving := true }) he ht).1

/-- Only the flag passes from one half to the next. -/
theorem answers_eq {s : Session} (he : s.enabled = true) {calls : List (Save × Half)}
    (h : ∀ c ∈ calls, s.Tracks c.1) :
    s.answers calls = (replies s.saving calls).map .ok := by
  induction calls generalizing s with
  | nil => rfl
  | cons c calls ih =>
    obtain ⟨d, half⟩ := c
    have hd : s.Tracks d := h _ List.mem_cons_self
    have hi (b : Bool) : answers { s with saving := b } calls = (replies b calls).map .ok :=
      ih he fun c hc => by
        have hc := h c (List.mem_cons_of_mem _ hc)
        exact ⟨hc.target, hc.wrapped⟩
    show s.answer (d.action half) :: (s.next (d.action half)).answers calls = _
    cases half with
    | asks =>
      rw [(act_asks he hd).1, (act_asks he hd).2, hi]
      rfl
    | tells =>
      rw [(act_tells he hd).1, (act_tells he hd).2, hi]
      rfl

/-- Two tracked documents are saved, the halves of their saves in any order that keeps each save's
own. All halves but the last are answered as if that save were all that happened. So is the last one
if the saves follow one another; otherwise it is answered with nothing, as it is by itself only if
nothing is left to wrap. -/
theorem saves_undisturbed_iff {s : Session} {a b : Save} {order : List (Save × Half)}
    (he : s.enabled = true) (ha : s.Tracks a) (hb : s.Tracks b)
    (h : Interleaving a.halves b.halves order) :
    (s.answers order).dropLast = (order.map s.alone).dropLast ∧
    (order ≠ a.halves ++ b.halves ∧ order ≠ b.halves ++ a.halves →
      (s.answers order).getLast? = some (.ok .nothing)) ∧
    (s.answers order = order.map s.alone ↔
      order = a.halves ++ b.halves ∨ order = b.halves ++ a.halves ∨
        (order.map s.alone).getLast? = some (.ok .nothing)) := by
  have ht : ∀ c ∈ order, s.Tracks c.1 := by
    intro c hc
    rcases h.mem_or hc with hm | hm
    · obtain rfl | rfl : c = (a, .asks) ∨ c = (a, .tells) := by simpa [Save.halves] using hm
      all_goals exact ha
    · obtain rfl | rfl : c = (b, .asks) ∨ c = (b, .tells) := by simpa [Save.halves] using hm
      all_goals exact hb
  have hs : order.map s.alone = order.map fun c => .ok (c.1.reply c.2) :=
    List.map_congr_left fun c hc => alone_eq he (ht c hc) c.2
  rw [answers_eq he ht, hs]
  rcases h.of_halves with rfl | rfl | ⟨c, d, e, f, rfl⟩
  · exact ⟨rfl, fun ⟨hn, _⟩ => absurd rfl hn, by simp [Save.halves, replies]⟩
  · exact ⟨rfl, fun ⟨_, hn⟩ => absurd rfl hn, by simp [Save.halves, replies]⟩
  · exact ⟨rfl, fun _ => rfl, by simp [Save.halves, replies, eq_comm]⟩

/-- The second document has lost its tags when it is saved, so nothing is missed. -/
theorem saves_undisturbed_untagged :
    let t := "\x7b\x7b a \x7d\x7d".toList
    let s := ({} : Session).after [.opened "a" "typescript" t, .opened "b" "typescript" t]
    let a : Save := ⟨"a", "typescript", wrap t, t⟩
    let b : Save := ⟨"b", "typescript", ['b'], ['b']⟩
    let order := [(a, Half.asks), (b, .asks), (a, .tells), (b, .tells)]
    s.enabled = true ∧ s.Tracks a ∧ s.Tracks b ∧ Interleaving a.halves b.halves order ∧
    s.alone (b, .tells) = .ok .nothing ∧ s.answers order = order.map s.alone := by
  intro t s a b order
  have he : s.enabled = true := by decide +kernel
  have ha : s.Tracks a := ⟨by decide +kernel, by decide +kernel⟩
  have hb : s.Tracks b := ⟨by decide +kernel, by decide +kernel⟩
  have ho : Interleaving a.halves b.halves order := .left (.right (.left (.right .nil)))
  have hn : s.alone (b, .tells) = .ok .nothing := by decide +kernel
  have hl : (order.map s.alone).getLast? = some (.ok .nothing) := congrArg some hn
  exact ⟨he, ha, hb, ho, hn, (saves_undisturbed_iff he ha hb ho).2.2.mpr (Or.inr (Or.inr hl))⟩

/-- Two documents are opened and wrapped, both ask for their bare text, and both tell of their save:
the second one is not wrapped again. -/
theorem exists_disturbed_save :
    ¬ ∀ (s : Session) (a b : Save) (order : List (Save × Half)), s.enabled = true → a.id ≠ b.id →
      s.languages.has a.language = .ok true → s.languages.has b.language = .ok true →
      let opened := s.after
        [.opened a.id a.language a.written, .opened b.id b.language b.written]
      opened.isWrapped a.id = true → opened.isWrapped b.id = true →
      Interleaving a.halves b.halves order → opened.answers order = order.map opened.alone := by
  intro h
  let t := "\x7b\x7b a \x7d\x7d".toList
  let u := "\x7b\x7b b \x7d\x7d".toList
  let a : Save := ⟨"a", "typescript", wrap t, t⟩
  let b : Save := ⟨"b", "typescript", wrap u, u⟩
  let order := [(a, Half.asks), (b, .asks), (a, .tells), (b, .tells)]
  have ho : Interleaving a.halves b.halves order := .left (.right (.left (.right .nil)))
  have hc := h {} a b order (by decide) (by decide) (by decide +kernel) (by decide +kernel)
    (by decide +kernel) (by decide +kernel) ho
  exact absurd hc (by decide +kernel)

end Session

end TemplateGuard
