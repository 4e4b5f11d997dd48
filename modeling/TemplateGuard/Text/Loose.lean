import TemplateGuard.Text.Cut
import TemplateGuard.Text.Quoted
import TemplateGuard.Text.Surrogate

namespace TemplateGuard

/-- A character, or half of a pair that stands alone and is no character. -/
inductive Letter where
  | char (c : Char)
  | half (unit : Nat)
  deriving DecidableEq, Repr

namespace Letter

def ofUnit (n : Nat) : Letter :=
  if Surrogate.isHigh n || Surrogate.isLow n then .half n else .char (Char.ofNat n)

def isHalf : Letter → Bool
  | .char _ => false
  | .half _ => true

end Letter

/-- A text as escapes can spell it, with halves that stand alone. -/
abbrev LooseText := List Letter

namespace LooseText

def ofText (t : Text) : LooseText := t.map .char

def ofString (s : String) : LooseText := ofText s.toList

@[simp] theorem ofText_nil : ofText [] = [] := rfl

@[simp] theorem ofText_cons (c : Char) (t : Text) : ofText (c :: t) = .char c :: ofText t := rfl

@[simp] theorem ofText_append (s t : Text) : ofText (s ++ t) = ofText s ++ ofText t :=
  List.map_append

@[simp] theorem length_ofText (t : Text) : (ofText t).length = t.length := List.length_map _

/-- Where a text cannot be written out: at a half, which `more` others follow directly. -/
structure Unwritable where
  offset : Nat
  unit : Nat
  more : Nat
  deriving DecidableEq, Repr

def Unwritable.message (e : Unwritable) : String :=
  let place :=
    if e.more = 0 then
      " '\\u" ++ String.ofList (Quoted.hex 4 e.unit) ++ "' in position " ++ toString e.offset
    else "s in position " ++ toString e.offset ++ "-" ++ toString (e.offset + e.more)
  "'utf-8' codec can't encode character" ++ place ++ ": surrogates not allowed"

/-- The characters for writing a text out, where its first letter has this offset. -/
def encodeFrom : Nat → LooseText → Except Unwritable Text
  | _, [] => .ok []
  | n, .char c :: t => (encodeFrom (n + 1) t).map (c :: ·)
  | n, .half unit :: t => .error ⟨n, unit, (t.takeWhile Letter.isHalf).length⟩

def encode (t : LooseText) : Except Unwritable Text := encodeFrom 0 t

theorem encodeFrom_eq_ok_iff (n : Nat) (t : LooseText) (u : Text) :
    encodeFrom n t = .ok u ↔ t = ofText u := by
  induction t generalizing n u with
  | nil => cases u <;> simp [encodeFrom]
  | cons l t ih =>
    cases l with
    | half unit => cases u <;> simp [encodeFrom]
    | char c =>
      rw [encodeFrom]
      cases u with
      | nil => cases encodeFrom (n + 1) t <;> simp [Except.map]
      | cons d u =>
        rw [ofText_cons, List.cons.injEq, Letter.char.injEq, ← ih (n + 1) u]
        cases encodeFrom (n + 1) t <;> simp [Except.map]

/-- A text is written out as it is, and exactly if no half stands alone in it. -/
theorem encode_eq_ok_iff (t : LooseText) (u : Text) : t.encode = .ok u ↔ t = ofText u :=
  encodeFrom_eq_ok_iff 0 t u

theorem encodeFrom_half (n : Nat) (t : Text) (unit : Nat) (rest : LooseText) :
    encodeFrom n (ofText t ++ .half unit :: rest) =
      .error ⟨n + t.length, unit, (rest.takeWhile Letter.isHalf).length⟩ := by
  induction t generalizing n with
  | nil => rfl
  | cons c t ih =>
    have hn : n + 1 + t.length = n + (t.length + 1) := by omega
    rw [ofText_cons, List.cons_append, encodeFrom, ih, List.length_cons, hn]
    rfl

/-- Of the halves that stand alone the first is named, with those that follow it directly. -/
theorem encode_half (t : Text) (unit : Nat) (rest : LooseText) :
    (ofText t ++ .half unit :: rest).encode =
      .error ⟨t.length, unit, (rest.takeWhile Letter.isHalf).length⟩ := by
  rw [encode, encodeFrom_half, Nat.zero_add]

def hasInfix (t key : LooseText) : Bool :=
  match t with
  | [] => key.isEmpty
  | l :: rest => key.isPrefixOf (l :: rest) || hasInfix rest key

/-- Replaces the occurrences of `key` after the first letters, which an earlier one took. -/
def replaceAfter (key new : LooseText) : Nat → LooseText → LooseText
  | _, [] => []
  | skip + 1, _ :: rest => replaceAfter key new skip rest
  | 0, l :: rest =>
    if key.isPrefixOf (l :: rest) then new ++ replaceAfter key new (key.length - 1) rest
    else l :: replaceAfter key new 0 rest

/-- Replaces every occurrence of `key`, found from left to right. The empty key occurs before every
letter and at the end. -/
def replaceAll (t key new : LooseText) : LooseText :=
  if key.isEmpty then new ++ t.flatMap (fun l => l :: new) else replaceAfter key new 0 t

theorem isPrefixOf_ofText (key t : Text) :
    (ofText key).isPrefixOf (ofText t) = key.isPrefixOf t := by
  induction key generalizing t with
  | nil => rfl
  | cons c key ih =>
    cases t with
    | nil => rfl
    | cons d t =>
      have hc : (Letter.char c == Letter.char d) = (c == d) := by
        rw [Bool.eq_iff_iff]
        simp
      rw [ofText_cons, ofText_cons, List.isPrefixOf_cons_cons, List.isPrefixOf_cons_cons, ih, hc]

theorem hasInfix_ofText (t key : Text) : (ofText t).hasInfix (ofText key) = t.hasInfix key := by
  induction t with
  | nil => cases key <;> rfl
  | cons c t ih =>
    have hp := isPrefixOf_ofText key (c :: t)
    rw [ofText_cons] at hp ⊢
    rw [hasInfix, hp, ih, Text.hasInfix]

theorem replaceAfter_ofText (key new : Text) (n : Nat) (t : Text) :
    replaceAfter (ofText key) (ofText new) n (ofText t) =
      ofText (Piece.rebuild (fun _ _ => new) (Pattern.cutAfter (Text.literal key) n t)) := by
  induction t generalizing n with
  | nil => cases n <;> rfl
  | cons c t ih =>
    cases n with
    | succ n => exact ih n
    | zero =>
      have hp := isPrefixOf_ofText key (c :: t)
      rw [ofText_cons] at hp ⊢
      rw [replaceAfter, hp, Pattern.cutAfter, Text.literal, length_ofText]
      cases key.isPrefixOf (c :: t) with
      | true => simp [Piece.rebuild, ih]
      | false => simp [Piece.rebuild, ih]

/-- In a text without halves a key is replaced as in the text of its characters. -/
theorem replaceAll_ofText (t key new : Text) :
    (ofText t).replaceAll (ofText key) (ofText new) = ofText (t.replaceAll key new) := by
  have he : (ofText key).isEmpty = key.isEmpty := by cases key <;> rfl
  rw [replaceAll, Text.replaceAll, he]
  split
  · simp [ofText, List.flatMap_map, List.map_flatMap]
  · exact replaceAfter_ofText key new 0 t

end LooseText

end TemplateGuard
