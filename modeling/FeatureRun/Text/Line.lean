/-!
Line ends: the characters that separate lines, the first line of a text, and the one written form
of a line end in a file that was read.
-/
namespace FeatureRun.Text

/-- Line feed, vertical tab, form feed, carriage return, the separators U+001C to U+001E, the next
line character, and the line and paragraph separators. -/
def isLineEnd (c : Char) : Bool :=
  (0x0A ≤ c.toNat && c.toNat ≤ 0x0D) || (0x1C ≤ c.toNat && c.toNat ≤ 0x1E) ||
    c.toNat == 0x85 || c.toNat == 0x2028 || c.toNat == 0x2029

/-- The text before the first line end. -/
def firstLine (s : List Char) : List Char := s.takeWhile fun c => !isLineEnd c

/-- Writes every carriage return, with or without a line feed behind it, as a line feed. -/
def unifyLineEnds : List Char → List Char
  | [] => []
  | '\r' :: '\n' :: r => '\n' :: unifyLineEnds r
  | '\r' :: r => '\n' :: unifyLineEnds r
  | c :: r => c :: unifyLineEnds r

end FeatureRun.Text
