import FeatureRun.Data.Value

/-!
The text of a value. A text is shown in quotes inside other values and bare on its own; a container
inside itself is shown by dots. A value has no text if an integer beyond the digit limit is shown in
it, or if too many values lie one inside the other.
-/
namespace FeatureRun.Data
open FeatureRun.Text FeatureRun.Number

namespace Value

/-- What stands for a container inside itself. -/
def dots : Value → String
  | .map _ => "\x7b...\x7d"
  | .tuple _ => "(...)"
  | _ => "[...]"

/-- The pieces between brackets, with commas. -/
def bracketed (left right : String) (pieces : List String) : String :=
  left ++ ", ".intercalate pieces ++ right

mutual
/-- The text of a value inside the containers `opened`, given by label and dots. No more than `room`
values are shown one inside the other. -/
def shownIn (opened : List (Nat × String)) : Nat → Value → Except ConversionError String
  | 0, _ => .error .tooDeep
  | _ + 1, .null => .ok "None"
  | _ + 1, .bool b => .ok (if b then "True" else "False")
  | _ + 1, .int n => integerText n
  | _ + 1, .real x => .ok x.text
  | _ + 1, .text s => .ok (quotedPoints s)
  | _ + 1, .bytes bs => .ok (quotedBytes bs)
  | _ + 1, .date d => .ok d.shown
  | _ + 1, .moment m => .ok m.shown
  | room + 1, .list xs => do .ok (bracketed "[" "]" (← shownItems opened room xs))
  | room + 1, .tuple xs => do
    match ← shownItems opened room xs with
    | [piece] => .ok ("(" ++ piece ++ ",)")
    | pieces => .ok (bracketed "(" ")" pieces)
  | room + 1, .set xs => do
    match ← shownItems opened room xs with
    | [] => .ok "set()"
    | pieces => .ok (bracketed "\x7b" "\x7d" pieces)
  | room + 1, .map es => do .ok (bracketed "\x7b" "\x7d" (← shownEntries opened room es))
  | room + 1, .shared label body =>
    match opened.lookup label with
    | some d => .ok d
    | none => shownIn ((label, body.dots) :: opened) (room + 1) body
  | _ + 1, .inside label => .ok ((opened.lookup label).getD "[...]")

def shownItems (opened : List (Nat × String)) (room : Nat) :
    List Value → Except ConversionError (List String)
  | [] => .ok []
  | x :: xs => do
    let piece ← shownIn opened room x
    let pieces ← shownItems opened room xs
    .ok (piece :: pieces)

def shownEntries (opened : List (Nat × String)) (room : Nat) :
    List (Value × Value) → Except ConversionError (List String)
  | [] => .ok []
  | (k, v) :: es => do
    let key ← shownIn opened room k
    let value ← shownIn opened room v
    let pieces ← shownEntries opened room es
    .ok ((key ++ ": " ++ value) :: pieces)
end

/-- The value as it is shown inside another. -/
def shown (v : Value) : Except ConversionError String := shownIn [] depthLimit v

/-- The value on its own: a text by its characters, a date in the order of its parts. -/
def displayWithin (room : Nat) : Value → Except ConversionError String
  | .text s => .ok (asString s)
  | .date d => .ok d.text
  | .moment m => .ok (m.text " ")
  | v => shownIn [] room v

def display (v : Value) : Except ConversionError String := v.displayWithin depthLimit

end Value

end FeatureRun.Data
