import FeatureRun.Text.Ranges

/-!
Blank characters (white space together with the four separators U+001C to U+001F), trimming, and
the replacement of runs. Trimming removes blanks at the ends only.
-/
namespace FeatureRun.Text

/-- Blank characters. -/
def blankRanges : Ranges := [
  (0x9, 0xD), (0x1C, 0x20), (0x85, 0x85), (0xA0, 0xA0), (0x1680, 0x1680), (0x2000, 0x200A),
  (0x2028, 0x2029), (0x202F, 0x202F), (0x205F, 0x205F), (0x3000, 0x3000)]

def isBlank (c : Char) : Bool := blankRanges.holds c.toNat

/-- Blanks that may surround a number. The separators U+001C to U+001F may not. -/
def isNumberBlank (c : Char) : Bool := isBlank c && !(0x1C ≤ c.toNat && c.toNat ≤ 0x1F)

variable (p : Char → Bool)

def trimLeftWith (s : List Char) : List Char := s.dropWhile p

def trimRightWith (s : List Char) : List Char := (s.reverse.dropWhile p).reverse

/-- Drops the characters in `p` from both ends. -/
def trimWith (s : List Char) : List Char := trimRightWith p (trimLeftWith p s)

def trim (s : List Char) : List Char := trimWith isBlank s

/-- Writes `mark` for every maximal run of characters in `p`; `inRun` says that the run before
the text has been written already. -/
def squeezeAfter (mark : Char) : Bool → List Char → List Char
  | _, [] => []
  | inRun, c :: r =>
    if p c then
      if inRun then squeezeAfter mark true r else mark :: squeezeAfter mark true r
    else c :: squeezeAfter mark false r

/-- Writes `mark` for every maximal run of characters in `p`. -/
def squeeze (mark : Char) (s : List Char) : List Char := squeezeAfter p mark false s

/-- A text is blank if it holds blank characters only. -/
def isBlankText (s : String) : Bool := s.toList.all isBlank

/-- The text without the blanks at its ends. -/
def strip (s : String) : String := String.ofList (trim s.toList)

end FeatureRun.Text
