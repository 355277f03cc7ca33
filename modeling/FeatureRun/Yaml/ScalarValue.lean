import FeatureRun.Text.LowerCase
import FeatureRun.Text.Replace
import FeatureRun.Yaml.Fault
import FeatureRun.Yaml.Tag

/-!
The values of texts by their kind.
-/
namespace FeatureRun.Yaml
open FeatureRun.Text FeatureRun.Number FeatureRun.Data

/-- The text without low lines. -/
def dropLowLines (s : List CodePoint) : List CodePoint := s.filter (· != .char '_')

/-- The sign, `true` for minus, and what follows it. The empty text has no first character to look
at. -/
def signedBody (s : List CodePoint) : Except CastError (Bool × List CodePoint) :=
  match s with
  | [] => .error .noIndex
  | .char '-' :: r => .ok (true, r)
  | .char '+' :: r => .ok (false, r)
  | s => .ok (false, s)

/-- An integer of a base, as a cast. -/
def castInteger (base : Nat) (s : List CodePoint) : Except CastError Int :=
  (readIntegerAs base (quotedPoints s) (asCharacters s)).mapError .conversion

/-- A real, as a cast. -/
def castReal (s : List CodePoint) : Except CastError Binary64 :=
  (readRealAs (quotedPoints s) (asCharacters s)).mapError .conversion

/-- The value of digits in base 60, most significant first. -/
def sexagesimal (digits : List Int) : Int := digits.foldl (fun n d => 60 * n + d) 0

/-- The value of an integer without its sign. -/
def unsignedInteger (s : List CodePoint) : Except CastError Int :=
  match s with
  | [] => .error .noIndex
  | [.char '0'] => .ok 0
  | .char '0' :: .char 'b' :: r => castInteger 2 r
  | .char '0' :: .char 'x' :: r => castInteger 16 r
  | .char '0' :: _ => castInteger 8 s
  | _ =>
    if s.contains (.char ':') then do
      .ok (sexagesimal (← (split (.char ':') s).mapM (castInteger 10)))
    else castInteger 10 s

def integerValue (s : List CodePoint) : Except CastError Int := do
  let (negative, body) ← signedBody (dropLowLines s)
  let n ← unsignedInteger body
  .ok (if negative then -n else n)

/-- The sum of digits in base 60, least significant first, from a place value on. -/
def sexagesimalReal : Binary64 → Int → List Binary64 → Except CastError Binary64
  | sum, _, [] => .ok sum
  | sum, place, d :: ds => do
    let factor ← (realOfInt place).mapError .conversion
    sexagesimalReal (sum.add (d.mul factor)) (place * 60) ds

/-- The value of a real without its sign. -/
def unsignedReal (s : List CodePoint) : Except CastError Binary64 :=
  if asString s = ".inf" then .ok (.infinite false)
  else if asString s = ".nan" then .ok .nan
  else if s.contains (.char ':') then do
    sexagesimalReal (.zero false) 1 (← (split (.char ':') s).mapM castReal).reverse
  else castReal s

def realValue (s : List CodePoint) : Except CastError Binary64 := do
  let (negative, body) ← signedBody (lowerPoints (dropLowLines s))
  let x ← unsignedReal body
  .ok (if negative then x.negate else x)

/-- The word for no number: in any case, with or without a sign, and with low lines passed over. -/
def isNanWord (s : List CodePoint) : Bool :=
  match signedBody (lowerPoints (dropLowLines s)) with
  | .ok (_, body) => asString body == ".nan"
  | .error _ => false

/-- The truth value of a word in any case. -/
def boolValue (s : List Char) : Except CastError Bool :=
  let word := String.ofList (lowerList s)
  if ["yes", "true", "on"].contains word then .ok true
  else if ["no", "false", "off"].contains word then .ok false
  else .error .noKey

/-- The value of a digit in base 64. -/
def base64Value? (c : Char) : Option Nat :=
  if 'A' ≤ c && c ≤ 'Z' then some (c.toNat - 0x41)
  else if 'a' ≤ c && c ≤ 'z' then some (c.toNat - 0x61 + 26)
  else if '0' ≤ c && c ≤ '9' then some (c.toNat - 0x30 + 52)
  else if c = '+' then some 62
  else if c = '/' then some 63
  else none

/-- Decodes base 64. Other characters are passed over. `place` counts the digits of the current
group, `pads` the equals signs behind the last of them, and `left` holds the bits not yet written.
A group ends by digits or by equals signs; the text ends with the group that equals signs fill. -/
def base64Bytes (place pads left : Nat) : List Char → Option (List UInt8)
  | [] => if place = 0 then some [] else none
  | c :: r =>
    if c = '=' then
      if 2 ≤ place then
        if 4 ≤ place + pads + 1 then some [] else base64Bytes place (pads + 1) left r
      else base64Bytes place pads left r
    else
      match base64Value? c with
      | none => base64Bytes place pads left r
      | some v =>
        match place with
        | 0 => base64Bytes 1 0 v r
        | 1 => (base64Bytes 2 0 (v % 16) r).map ((left * 4 + v / 16).toUInt8 :: ·)
        | 2 => (base64Bytes 3 0 (v % 4) r).map ((left * 16 + v / 4).toUInt8 :: ·)
        | _ => (base64Bytes 0 0 0 r).map ((left * 64 + v).toUInt8 :: ·)

/-- The bytes that an ASCII text encodes. -/
def binaryValue? (s : List Char) : Option (List UInt8) :=
  if s.all (·.toNat < 0x80) then base64Bytes 0 0 0 s else none

/-- The value of a text of a kind; only the kinds of texts have one. -/
def scalarValue (tag : Tag) (s : List CodePoint) : Except Failure Value :=
  match tag with
  | .null => .ok .null
  | .bool => (boolValue (asCharacters s)).map .bool |>.mapError .cast
  | .int => (integerValue s).map .int |>.mapError .cast
  | .real => (realValue s).map .real |>.mapError .cast
  | .text => .ok (.text s)
  | .binary =>
    match binaryValue? (asCharacters s) with
    | some bs => .ok (.bytes bs)
    | none => .error (.fault .constructor)
  | .time =>
    match Stamp.read? (dropLastBreak (asCharacters s)) with
    | some t => t.value.mapError .calendar
    | none => .error .noTime
  | _ => .error (.fault .constructor)

end FeatureRun.Yaml
