/-!
Numerals in a base: the digits of a natural number, padded to a width.
-/
namespace FeatureRun.Text

/-- The digit sixteen and below, in small letters. -/
def digitChar (d : Nat) : Char := if d < 10 then Char.ofNat (0x30 + d) else Char.ofNat (0x57 + d)

/-- The last `width` digits of `n` in base `base`, most significant first. -/
def digitsOf (base : Nat) : Nat → Nat → List Char
  | 0, _ => []
  | width + 1, n => digitsOf base width (n / base) ++ [digitChar (n % base)]

/-- The last `width` hexadecimal digits. -/
def hex (width n : Nat) : List Char := digitsOf 16 width n

/-- The last `width` decimal digits. -/
def padded (width n : Nat) : String := String.ofList (digitsOf 10 width n)

/-- The value of a hexadecimal digit. -/
def hexValue? (c : Char) : Option Nat :=
  if '0' ≤ c && c ≤ '9' then some (c.toNat - 0x30)
  else if 'a' ≤ c && c ≤ 'f' then some (c.toNat - 0x57)
  else if 'A' ≤ c && c ≤ 'F' then some (c.toNat - 0x37)
  else none

end FeatureRun.Text
