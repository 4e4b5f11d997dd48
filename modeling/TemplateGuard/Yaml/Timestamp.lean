import TemplateGuard.Moment
import TemplateGuard.Text.Blank

namespace TemplateGuard

namespace Yaml

namespace Timestamp

def fixed (n : Nat) (t : Text) : Option (Nat × Text) :=
  let run := t.take n
  if run.length = n ∧ run.all Char.isDigit then
    some (run.foldl (fun acc d => acc * 10 + (d.toNat - '0'.toNat)) 0, t.drop n)
  else none

def short (t : Text) : Option (Nat × Text) := (fixed 2 t).or (fixed 1 t)

def after (c : Char) : Text → Option Text
  | d :: rest => if c = d then some rest else none
  | [] => none

def isSpace (c : Char) : Bool := c == ' ' || c == '\t'

/-- The six digits after the point of the seconds; those after them are dropped. -/
def fraction : Text → Nat × Text
  | '.' :: rest =>
    let run := rest.takeWhile Char.isDigit
    let six := (run ++ List.replicate 6 '0').take 6
    (six.foldl (fun acc d => acc * 10 + (d.toNat - '0'.toNat)) 0, rest.dropWhile Char.isDigit)
  | t => (0, t)

/-- The offset at the end of a time: none, that of universal time, or hours and perhaps minutes. -/
def offset (t : Text) : Option (Option Int) :=
  let hours (sign : Int) (t : Text) : Option (Option Int) := do
    let (h, rest) ← short t
    match rest with
    | [] => return some (sign * (60 * h))
    | ':' :: rest =>
      let (m, rest) ← fixed 2 rest
      if rest.isEmpty then return some (sign * (60 * h + m)) else none
    | _ => none
  match t, t.dropWhile isSpace with
  | [], _ => some none
  | _, ['Z'] => some (some 0)
  | _, '+' :: rest => hours 1 rest
  | _, '-' :: rest => hours (-1) rest
  | _, _ => none

def clock (t : Text) : Option Clock := do
  let (hour, t) ← short t
  let (minute, t) ← fixed 2 (← after ':' t)
  let (second, t) ← fixed 2 (← after ':' t)
  let (micro, t) := fraction t
  let zone ← offset t
  return ⟨hour, minute, second, micro, zone⟩

/-- A moment by its fields, which are not checked. Month and day may have one digit. -/
def parse? (t : Text) : Option Moment := do
  let (year, t) ← fixed 4 t
  let (month, t) ← short (← after '-' t)
  let (day, t) ← short (← after '-' t)
  match t with
  | [] => return ⟨year, month, day, none⟩
  | c :: rest =>
    if c = 'T' ∨ c = 't' then return ⟨year, month, day, ← clock rest⟩
    else if isSpace c then return ⟨year, month, day, ← clock (rest.dropWhile isSpace)⟩
    else none

/-- Whether a text is written like a date or a time. A date alone has two digits for month and day. -/
def isOne (t : Text) : Bool :=
  match parse? t with
  | some m => m.clock.isSome || t.length == 10
  | none => false

end Timestamp

end Yaml

end TemplateGuard
