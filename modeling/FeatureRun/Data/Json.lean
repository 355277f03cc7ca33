import FeatureRun.Data.Display

/-!
A value on one line of JSON. What JSON does not know is written as its text; a key must be a text, a
number, a truth value or nothing, no container may hold itself, and not too many containers may lie
one inside the other.
-/
namespace FeatureRun.Data
open FeatureRun.Text FeatureRun.Number

/-- Why a value has no JSON. -/
inductive JsonError where
  | badKey (kind : String)
  | circular
  | tooDeep
  | conversion (e : ConversionError)
deriving DecidableEq, Repr

def JsonError.message : JsonError → String
  | .badKey kind => "keys must be str, int, float, bool or None, not " ++ kind
  | .circular => "Circular reference detected"
  | .tooDeep => "maximum recursion depth exceeded while encoding a JSON object"
  | .conversion e => e.message

/-- One character of a JSON string. Only quotation mark, backslash and controls are escaped. -/
def jsonChar (c : Char) : List Char :=
  if c = '"' then ['\\', '"']
  else if c = '\\' then ['\\', '\\']
  else if c = '\n' then ['\\', 'n']
  else if c = '\r' then ['\\', 'r']
  else if c = '\t' then ['\\', 't']
  else if c = '\x08' then ['\\', 'b']
  else if c = '\x0c' then ['\\', 'f']
  else if c.toNat < 0x20 then '\\' :: 'u' :: hex 4 c.toNat
  else [c]

def jsonString (s : String) : String :=
  String.ofList ('"' :: s.toList.flatMap jsonChar ++ ['"'])

/-- A number, with names for what JSON has no number for. -/
def jsonReal : Binary64 → String
  | .nan => "NaN"
  | .infinite negative => if negative then "-Infinity" else "Infinity"
  | x => x.text

namespace Value

/-- The kind of a key that JSON does not know. -/
def keyKind : Value → String
  | .bytes _ => "bytes"
  | .date _ => "datetime.date"
  | .moment _ => "datetime.datetime"
  | _ => "tuple"

/-- A key as the text that JSON wants. -/
def jsonKey (key : Value) : Except JsonError String :=
  match key with
  | .text s => .ok (asString s)
  | .real x => .ok (jsonReal x)
  | .bool b => .ok (if b then "true" else "false")
  | .null => .ok "null"
  | .int n => (integerText n).mapError .conversion
  | v => .error (.badKey v.keyKind)

/-- A value that JSON does not know as the string of its text. -/
def jsonDisplay (room : Nat) (v : Value) : Except JsonError String :=
  ((v.displayWithin room).mapError .conversion).map jsonString

mutual
/-- The JSON of a value inside the containers `opened`. No more than `room` values other than plain
ones are written one inside the other. -/
def jsonIn (opened : List Nat) : Nat → Value → Except JsonError String
  | _, .null => .ok "null"
  | _, .bool b => .ok (if b then "true" else "false")
  | _, .int n => (integerText n).mapError .conversion
  | _, .real x => .ok (jsonReal x)
  | _, .text s => .ok (jsonString (asString s))
  | 0, _ => .error .tooDeep
  | room + 1, .list xs | room + 1, .tuple xs => do
    .ok (bracketed "[" "]" (← jsonItems opened room xs))
  | room + 1, .map es => do .ok (bracketed "\x7b" "\x7d" (← jsonEntries opened room es))
  | room + 1, .shared label body =>
    if opened.contains label then .error .circular else jsonIn (label :: opened) (room + 1) body
  | _ + 1, .inside _ => .error .circular
  | room + 1, v => v.jsonDisplay (room + 1)

def jsonItems (opened : List Nat) (room : Nat) : List Value → Except JsonError (List String)
  | [] => .ok []
  | x :: xs => do
    let piece ← jsonIn opened room x
    let pieces ← jsonItems opened room xs
    .ok (piece :: pieces)

def jsonEntries (opened : List Nat) (room : Nat) :
    List (Value × Value) → Except JsonError (List String)
  | [] => .ok []
  | (k, v) :: es => do
    let key ← k.jsonKey
    let value ← jsonIn opened room v
    let pieces ← jsonEntries opened room es
    .ok ((jsonString key ++ ": " ++ value) :: pieces)
end

/-- The value on one line of JSON. -/
def json (v : Value) : Except JsonError String := jsonIn [] depthLimit v

end Value

end FeatureRun.Data
