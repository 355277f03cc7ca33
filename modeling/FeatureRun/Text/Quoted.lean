import FeatureRun.Text.CodePoint
import FeatureRun.Text.Numeral
import FeatureRun.Text.Printable

/-!
Quoted texts and bytes. The quote is the apostrophe unless the text holds an apostrophe and no
quotation mark; what has no visible form is written by its code point.
-/
namespace FeatureRun.Text

/-- The quote for a text that holds these characters. -/
def quoteFor (s : List Char) : Char := if s.contains '\'' && !s.contains '"' then '"' else '\''

/-- The escape that both texts and bytes share. -/
def shortEscape? (quote c : Char) : Option (List Char) :=
  if c = quote || c = '\\' then some ['\\', c]
  else if c = '\t' then some ['\\', 't']
  else if c = '\n' then some ['\\', 'n']
  else if c = '\r' then some ['\\', 'r']
  else none

/-- One character of a quoted text. -/
def quotedChar (quote c : Char) : List Char :=
  match shortEscape? quote c with
  | some e => e
  | none =>
    if c.toNat < 0x7F && 0x20 ≤ c.toNat || isPrintable c then [c]
    else if c.toNat < 0x100 then '\\' :: 'x' :: hex 2 c.toNat
    else if c.toNat < 0x10000 then '\\' :: 'u' :: hex 4 c.toNat
    else '\\' :: 'U' :: hex 8 c.toNat

/-- The text in quotes. -/
def quotedList (s : List Char) : List Char :=
  quoteFor s :: s.flatMap (quotedChar (quoteFor s)) ++ [quoteFor s]

def quoted (s : String) : String := String.ofList (quotedList s.toList)

/-- One code point of a quoted text. -/
def quotedPoint (quote : Char) : CodePoint → List Char
  | .char c => quotedChar quote c
  | .surrogate place => '\\' :: 'u' :: hex 4 (CodePoint.code (.surrogate place))

/-- The text in quotes, with surrogates by their code points. -/
def quotedPoints (s : List CodePoint) : String :=
  let quote := quoteFor (asCharacters s)
  String.ofList (quote :: s.flatMap (quotedPoint quote) ++ [quote])

theorem quotedPoints_codePoints (s : List Char) :
    quotedPoints (codePoints s) = String.ofList (quotedList s) := by
  simp only [quotedPoints, asCharacters_codePoints, quotedList]
  simp [codePoints, List.flatMap_map, quotedPoint]

/-- One byte of a quoted sequence of bytes. -/
def quotedByte (quote : Char) (b : UInt8) : List Char :=
  let c := Char.ofNat b.toNat
  match shortEscape? quote c with
  | some e => e
  | none => if 0x20 ≤ b && b < 0x7F then [c] else '\\' :: 'x' :: hex 2 b.toNat

/-- The bytes in quotes, behind the letter b. -/
def quotedBytes (bs : List UInt8) : String :=
  let quote := quoteFor (bs.map fun b => Char.ofNat b.toNat)
  String.ofList ('b' :: quote :: bs.flatMap (quotedByte quote) ++ [quote])

end FeatureRun.Text
