import TemplateGuard.Lexical.State

namespace TemplateGuard

/-- The cursor may stand past the end of the text after a skip. -/
structure Scanner where
  text : Text
  position : Nat := 0
  state : LexState := {}
  deriving DecidableEq, Repr

/-- A query about an offset that the text does not have. -/
structure OutOfRange where
  offset : Int
  length : Nat
  deriving DecidableEq, Repr

def OutOfRange.message (e : OutOfRange) : String :=
  "offset " ++ toString e.offset ++ " outside text of length " ++ toString e.length

namespace Scanner

def ofText (t : Text) : Scanner := { text := t }

def reset (s : Scanner) : Scanner := ofText s.text

def context (s : Scanner) : Context := s.state.context

/-- Reads on to an offset of the text, from the start if the offset lies behind. The cursor stops
one short when a two-character token straddles the offset. -/
def moveTo (s : Scanner) (offset : Nat) : Scanner :=
  let base := if offset < s.position then s.reset else s
  let (state, n) := base.state.read (offset - base.position) (s.text.drop base.position)
  { base with position := base.position + n, state := state }

/-- Classifies an offset; one outside the text is refused and moves nothing. -/
def advance (s : Scanner) (offset : Int) : Except OutOfRange Context × Scanner :=
  if offset < 0 ∨ offset > s.text.length then (.error ⟨offset, s.text.length⟩, s)
  else
    let next := s.moveTo offset.toNat
    (.ok next.context, next)

/-- Moves the cursor forward without reading; it never goes back and may leave the text. -/
def skipTo (s : Scanner) (offset : Int) : Scanner :=
  if offset > s.position then { s with position := offset.toNat } else s

/-- Classifies `start` and passes the characters up to `stop` as one token. Inside a comment they
are read all the same, since they may end it. -/
def classifySpan (s : Scanner) (start stop : Int) : Except OutOfRange Context × Scanner :=
  match s.advance start with
  | (.error e, s) => (.error e, s)
  | (.ok .comment, s) =>
    match s.advance stop with
    | (.error e, s) => (.error e, s)
    | (.ok _, s) => (.ok .comment, s)
  | (.ok c, s) => (.ok c, s.skipTo stop)

/-- `classifySpan` for a span that lies in the text. -/
def pass (s : Scanner) (start stop : Nat) : Context × Scanner :=
  let here := s.moveTo start
  match here.context with
  | .comment => (.comment, here.moveTo stop)
  | c => (c, here.skipTo stop)

inductive Query where
  | advance (offset : Int)
  | skip (offset : Int)
  | span (start stop : Int)
  | reset
  deriving DecidableEq, Repr

/-- Carries out a query; moving without reading has no answer. -/
def ask (s : Scanner) : Query → Option (Except OutOfRange Context) × Scanner
  | .advance o => let (answer, next) := s.advance o; (some answer, next)
  | .span start stop => let (answer, next) := s.classifySpan start stop; (some answer, next)
  | .skip o => (none, s.skipTo o)
  | .reset => (none, s.reset)

@[simp] theorem text_moveTo (s : Scanner) (n : Nat) : (s.moveTo n).text = s.text := by
  simp only [moveTo]; split <;> rfl

/-- For a span inside the text nothing can be refused. -/
theorem classifySpan_eq_pass (s : Scanner) (start stop : Nat) (hs : start ≤ s.text.length)
    (ht : stop ≤ s.text.length) :
    s.classifySpan start stop = (.ok (s.pass start stop).1, (s.pass start stop).2) := by
  have advance_eq : ∀ (r : Scanner) (n : Nat), n ≤ r.text.length →
      r.advance n = (.ok (r.moveTo n).context, r.moveTo n) := by
    intro r n h
    simp [advance, h]
  unfold classifySpan pass
  rw [advance_eq s start hs]
  cases hc : (s.moveTo start).context <;> simp [hc]
  rw [advance_eq _ stop (by simpa using ht)]

end Scanner

def classify (t : Text) (offset : Int) : Except OutOfRange Context :=
  ((Scanner.ofText t).advance offset).1

/-- The contexts of several offsets, with one scanner and in the order given. -/
def Scanner.classifyAll : Scanner → List Int → Except OutOfRange (List Context)
  | _, [] => .ok []
  | s, o :: os =>
    match s.advance o with
    | (.error e, _) => .error e
    | (.ok c, next) => (classifyAll next os).map (c :: ·)

def classifyOffsets (t : Text) (offsets : List Int) : Except OutOfRange (List Context) :=
  (Scanner.ofText t).classifyAll offsets

def insideString (t : Text) (offset : Int) : Except OutOfRange Bool :=
  (classify t offset).map Context.isProtected

end TemplateGuard
