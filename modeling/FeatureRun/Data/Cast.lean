import FeatureRun.Data.Value

/-!
Values read as integers, and parts of values read by position.
-/
namespace FeatureRun.Data
open FeatureRun.Text FeatureRun.Number

/-- Why a value cannot be read as wanted. -/
inductive CastError where
  | conversion (e : ConversionError)
  | wrongType
  | noIndex
  | noKey
deriving DecidableEq, Repr

namespace Value

/-- A byte as a character of a numeral; a byte beyond ASCII is none. -/
def byteChar (b : UInt8) : Char := if b < 0x80 then Char.ofNat b.toNat else '\uFFFD'

/-- The value as an integer: a number loses its fraction, a text or bytes are read in base 10. -/
def toInt (v : Value) : Except CastError Int :=
  match v with
  | .int n => .ok n
  | .bool b => .ok (if b then 1 else 0)
  | .real x => (intOfReal x).mapError .conversion
  | .text s => (readIntegerAs 10 (quotedPoints s) (asCharacters s)).mapError .conversion
  | .bytes bs => (readIntegerAs 10 (quotedBytes bs) (bs.map byteChar)).mapError .conversion
  | _ => .error .wrongType

/-- The part at a position; a mapping is asked for the position as a key. -/
def part (v : Value) (i : Nat) : Except CastError Value :=
  let found (o : Option Value) : Except CastError Value :=
    match o with
    | some x => .ok x
    | none => .error .noIndex
  match v.exposed with
  | .list xs | .tuple xs => found xs[i]?
  | .text s => found (s[i]?.map fun c => .text [c])
  | .bytes bs => found (bs[i]?.map fun b => .int b.toNat)
  | .map es =>
    match lookup? (.int i) es with
    | some x => .ok x
    | none => .error .noKey
  | _ => .error .wrongType

end Value

end FeatureRun.Data
