import FeatureRun.Number.Binary64

/-!
The decimal text of a binary number: the fewest digits that read back to it, of those the nearest,
written positionally between `10 ^ -4` and `10 ^ 16` and with an exponent elsewhere.
-/
namespace FeatureRun.Number
open scoped FeatureRun.CoreInstances

/-- The number `digits * 10 ^ exponent`. -/
structure Decimal where
  digits : Nat
  exponent : Int
deriving DecidableEq, Repr

/-- Compares `a * 10 ^ i` with `b * 2 ^ j`. -/
def compareScaled (a : Nat) (i : Int) (b : Nat) (j : Int) : Ordering :=
  compare (a * 10 ^ i.toNat * 2 ^ (-j).toNat) (b * 2 ^ j.toNat * 10 ^ (-i).toNat)

variable (m : Nat) (e : Int)

/-- The decimal lies among the reals that are rounded to `m * 2 ^ e`: halfway to the neighbours,
and the ends belong to an even mantissa. Below a power of two the neighbour is half as far. -/
def readsBack (d : Decimal) : Bool :=
  let low := if m = 2 ^ (52 : Nat) && e > -1074 then 4 * m - 1 else 4 * m - 2
  let atLow := compareScaled d.digits d.exponent low (e - 2)
  let atHigh := compareScaled d.digits d.exponent (4 * m + 2) (e - 2)
  let even := m % 2 == 0
  (atLow == .gt || (even && atLow == .eq)) && (atHigh == .lt || (even && atHigh == .eq))

/-- The least `k` with `m * 2 ^ e < 10 ^ k`. -/
def decimalSize : Int :=
  let guess := ((m.log2 : Int) + e) * 30103 / 100000
  ([guess - 1, guess, guess + 1].find? fun k => compareScaled 1 k m e == .gt).getD (guess + 2)

/-- The neighbours of `m * 2 ^ e` among the multiples of `10 ^ k`. -/
def neighbours (k : Int) : Decimal × Decimal :=
  let below := m * 2 ^ e.toNat * 10 ^ (-k).toNat / (10 ^ k.toNat * 2 ^ (-e).toNat)
  (⟨below, k⟩, ⟨below + 1, k⟩)

/-- The multiple of `10 ^ k` nearest to `m * 2 ^ e` that reads back to it, the even one of two. -/
def onGrid? (k : Int) : Option Decimal :=
  let (a, b) := neighbours m e k
  match readsBack m e a, readsBack m e b with
  | true, true =>
    match compareScaled (a.digits + b.digits) k (2 * m) e with
    | .gt => some a
    | .lt => some b
    | .eq => if a.digits % 2 = 0 then some a else some b
  | true, false => some a
  | false, true => some b
  | false, false => none

/-- Moves factors of ten from the digits to the exponent, at most `n` of them. -/
def dropZeros : Nat → Decimal → Decimal
  | 0, d => d
  | n + 1, d => if d.digits % 10 = 0 then dropZeros n ⟨d.digits / 10, d.exponent + 1⟩ else d

/-- The fewest digits that read back to `m * 2 ^ e`, which is not zero. -/
def shortest : Decimal :=
  let size := decimalSize m e
  match (List.range 17).findSome? fun n => onGrid? m e (size - (n + 1 : Nat)) with
  | some d => dropZeros 17 d
  | none => ⟨m * 2 ^ e.toNat * 5 ^ (-e).toNat, min e 0⟩

/-- The text of a decimal with at least one digit after the point, or with an exponent. -/
def Decimal.text (d : Decimal) : String :=
  let ds := (toString d.digits).toList
  let lead : Int := d.exponent + ds.length - 1
  let zeros (n : Int) : List Char := List.replicate n.toNat '0'
  String.ofList <|
    if -4 ≤ lead && lead < 16 then
      if d.exponent ≥ 0 then ds ++ zeros d.exponent ++ ['.', '0']
      else if lead ≥ 0 then ds.take (lead.toNat + 1) ++ '.' :: ds.drop (lead.toNat + 1)
      else '0' :: '.' :: zeros (-lead - 1) ++ ds
    else
      let size := toString lead.natAbs
      let fraction := if ds.length = 1 then [] else '.' :: ds.drop 1
      ds.take 1 ++ fraction ++ 'e' :: (if lead < 0 then '-' else '+') ::
        (if lead.natAbs < 10 then '0' :: size.toList else size.toList)

/-- The text of a number. -/
def Binary64.text : Binary64 → String
  | .nan => "nan"
  | .infinite negative => if negative then "-inf" else "inf"
  | .finite negative m e _ =>
    (if negative then "-" else "") ++ (if m = 0 then "0.0" else (shortest m e).text)

end FeatureRun.Number
