import FeatureRun.Yaml.Cursor

/-!
Texts written without quotes. Such a text ends at a colon before a gap, at a comment, and inside
brackets at any sign that structures them; it may go on behind line breaks.
-/
namespace FeatureRun.Yaml

def isBracket (c : Char) : Bool := c == '[' || c == ']' || c == '{' || c == '}'

/-- The text ends before `c`, which stands before `r`. -/
def endsPlain (inFlow : Bool) (c : Char) (r : List Char) : Bool :=
  isGap c ||
    (c == ':' && r.head?.all fun d => isGap d || (inFlow && (d == ',' || isBracket d))) ||
    (inFlow && (c == ',' || c == '?' || isBracket c))

/-- The first word of the text. -/
def plainWord (inFlow : Bool) : List Char → List Char
  | [] => []
  | c :: r => if endsPlain inFlow c r then [] else c :: plainWord inFlow r

/-- The breaks and spaces behind a first break; `none` if they lead to the mark of a document. -/
def plainBreaks? : Nat → Cursor → Option (List Char) × Cursor
  | 0, c => (some [], c)
  | n + 1, c =>
    match c.takeBreak? with
    | some (b, c) =>
      if c.seesDocumentMark then (none, c)
      else
        let (more, c) := plainBreaks? n c
        (more.map (b :: ·), c)
    | none => if c.sees (· == ' ') then plainBreaks? n c.next else (some [], c)

/-- What stands between two words of a text, and whether it holds a line break. It is empty if the
text does not go on. -/
def plainGap (c : Cursor) : List Char × Cursor × Bool :=
  let (spaces, c) := c.span (· == ' ')
  match c.takeBreak? with
  | none => (spaces, c, false)
  | some (b, c) =>
    if c.seesDocumentMark then ([], c, true)
    else
      match plainBreaks? c.rest.length c with
      | (none, c) => ([], c, true)
      | (some more, c) => (fold b more, c, true)

/-- The text from a word on, where `gap` stands before the word. The last component says whether
the place reached is behind a line break that follows the text. -/
def plainFrom (inFlow : Bool) (leastColumn : Nat) :
    Nat → List Char → Bool → Cursor → List Char × Cursor × Bool
  | 0, _, broken, c => ([], c, broken)
  | n + 1, gap, broken, c =>
    let word := plainWord inFlow c.rest
    if c.sees (· == '#') || word.isEmpty then ([], c, broken)
    else
      let (nextGap, c, broken) := plainGap (c.skip word.length)
      if nextGap.isEmpty || (!inFlow && c.column < leastColumn) then (gap ++ word, c, broken)
      else
        let (more, c, broken) := plainFrom inFlow leastColumn n nextGap broken c
        (gap ++ word ++ more, c, broken)

/-- A text without quotes. -/
def plainText (inFlow : Bool) (leastColumn : Nat) (c : Cursor) : List Char × Cursor × Bool :=
  plainFrom inFlow leastColumn c.rest.length [] false c

end FeatureRun.Yaml
