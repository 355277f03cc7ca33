import FeatureRun.CoreInstances

/-!
Binary floating point numbers of 64 bits with exact arithmetic behind them: an operation computes
the exact result and rounds it once, to the nearest number, a half to the even neighbour.
-/
namespace FeatureRun.Number
open scoped FeatureRun.CoreInstances

-- Irreducible, so that a case split on a number does not go into the bounds.
/-- What a finite number is made of: a mantissa below `2 ^ 53` and the least exponent of at least
`-1074` that allows this. -/
@[irreducible] def Fits (mantissa : Nat) (exponent : Int) : Prop :=
  mantissa < 2 ^ (53 : Nat) ∧ (exponent = -1074 ∨ 2 ^ (52 : Nat) ≤ mantissa) ∧
    -1074 ≤ exponent ∧ exponent ≤ 971

theorem fits_iff {mantissa : Nat} {exponent : Int} :
    Fits mantissa exponent ↔ mantissa < 2 ^ (53 : Nat) ∧
      (exponent = -1074 ∨ 2 ^ (52 : Nat) ≤ mantissa) ∧ -1074 ≤ exponent ∧ exponent ≤ 971 := by
  rw [Fits]

instance (mantissa : Nat) (exponent : Int) : Decidable (Fits mantissa exponent) :=
  decidable_of_iff' _ fits_iff

/-- A finite number is `mantissa * 2 ^ exponent` with its sign. -/
inductive Binary64 where
  | finite (negative : Bool) (mantissa : Nat) (exponent : Int) (fits : Fits mantissa exponent)
  | infinite (negative : Bool)
  | nan
deriving DecidableEq, Repr, Inhabited

/-- The quotient rounded to the nearest natural number, a half to the even neighbour. -/
def roundQuotient (num den : Nat) : Nat :=
  let q := num / den
  let r := num % den
  if 2 * r < den then q
  else if den < 2 * r then q + 1
  else if q % 2 = 0 then q
  else q + 1

/-- The largest `e` with `2 ^ e ≤ num / den`, for positive arguments. -/
def ratioLog2 (num den : Nat) : Int :=
  let e : Int := (num.log2 : Int) - (den.log2 : Int)
  if den * 2 ^ e.toNat ≤ num * 2 ^ (-e).toNat then e else e - 1

namespace Binary64

/-- The number with this mantissa and exponent, or infinity if there is none. -/
def pack (negative : Bool) (mantissa : Nat) (exponent : Int) : Binary64 :=
  if h : Fits mantissa exponent then .finite negative mantissa exponent h else .infinite negative

def zero (negative : Bool) : Binary64 := .finite negative 0 (-1074) (by decide)

/-- The number nearest to `num / den`. -/
def ofRatio (negative : Bool) (num den : Nat) : Binary64 :=
  if num = 0 then zero negative
  else
    let e := max (-1074) (ratioLog2 num den - 52)
    let m := roundQuotient (num * 2 ^ (-e).toNat) (den * 2 ^ e.toNat)
    if m = 2 ^ (53 : Nat) then pack negative (2 ^ (52 : Nat)) (e + 1) else pack negative m e

/-- The number nearest to `digits * 10 ^ exponent`. -/
def ofDecimal (negative : Bool) (digits : Nat) (exponent : Int) : Binary64 :=
  if digits = 0 then zero negative
  else if exponent > 400 then .infinite negative
  else if exponent < -400 - (digits.log2 : Int) then zero negative
  else ofRatio negative (digits * 10 ^ exponent.toNat) (10 ^ (-exponent).toNat)

/-- The number nearest to `n * 2 ^ exponent`. -/
def ofScaled (n : Int) (exponent : Int) : Binary64 :=
  ofRatio (n < 0) (n.natAbs * 2 ^ exponent.toNat) (2 ^ (-exponent).toNat)

/-- The number nearest to an integer; infinite if the integer is too large. -/
def ofInt (n : Int) : Binary64 := ofScaled n 0

def isNegative : Binary64 → Bool
  | .finite s _ _ _ => s
  | .infinite s => s
  | .nan => false

def negate : Binary64 → Binary64
  | .finite s m e h => .finite (!s) m e h
  | .infinite s => .infinite (!s)
  | .nan => .nan

/-- The mantissa with its sign. -/
def signed (negative : Bool) (mantissa : Nat) : Int := if negative then -mantissa else mantissa

def mul : Binary64 → Binary64 → Binary64
  | .nan, _ => .nan
  | _, .nan => .nan
  | .infinite s, .infinite t => .infinite (s != t)
  | .infinite s, .finite t m _ _ => if m = 0 then .nan else .infinite (s != t)
  | .finite s m _ _, .infinite t => if m = 0 then .nan else .infinite (s != t)
  | .finite s m e _, .finite t n f _ =>
    ofRatio (s != t) (m * n * 2 ^ (e + f).toNat) (2 ^ (-(e + f)).toNat)

def add : Binary64 → Binary64 → Binary64
  | .nan, _ => .nan
  | _, .nan => .nan
  | .infinite s, .infinite t => if s = t then .infinite s else .nan
  | .infinite s, .finite _ _ _ _ => .infinite s
  | .finite _ _ _ _, .infinite t => .infinite t
  | .finite s m e _, .finite t n f _ =>
    let low := min e f
    let sum := signed s m * 2 ^ (e - low).toNat + signed t n * 2 ^ (f - low).toNat
    if sum = 0 then zero (s && t) else ofScaled sum low

/-- Below zero. Neither zero nor a number that is no number is. -/
def ltZero : Binary64 → Bool
  | .finite s m _ _ => s && m != 0
  | .infinite s => s
  | .nan => false

/-- A finite number without a fraction. -/
def isInteger : Binary64 → Bool
  | .finite _ m e _ => m % 2 ^ (-e).toNat == 0
  | _ => false

/-- A finite number without its fraction. -/
def truncate? : Binary64 → Option Int
  | .finite s m e _ => some (signed s (m * 2 ^ e.toNat / 2 ^ (-e).toNat))
  | _ => none

/-- The number equals the integer. -/
def equalsInt (x : Binary64) (n : Int) : Bool := x.isInteger && x.truncate? == some n

/-- Equal numbers. The two zeros are equal; what is no number equals nothing. -/
def same : Binary64 → Binary64 → Bool
  | .finite s m e _, .finite t n f _ => m == n && (m == 0 || (e == f && s == t))
  | .infinite s, .infinite t => s == t
  | _, _ => false

def isZero : Binary64 → Bool
  | .finite _ m _ _ => m == 0
  | _ => false

/-- The larger of zero and the number; zero if it is no number. -/
def atLeastZero (x : Binary64) : Binary64 :=
  match x with
  | .finite false (_ + 1) _ _ => x
  | .infinite false => x
  | _ => zero false

end Binary64

end FeatureRun.Number
