/-!
A place in the text of a document: what is left of it, and the index, line and column reached. Line
ends have been unified, so a carriage return is not among them.
-/
namespace FeatureRun.Yaml

def isBreak (c : Char) : Bool := c == '\n' || c == '\u0085' || c == '\u2028' || c == '\u2029'

def isSpaceOrTab (c : Char) : Bool := c == ' ' || c == '\t'

/-- What ends a word. The end of the text does so too. -/
def isGap (c : Char) : Bool := isSpaceOrTab c || isBreak c

def isSpaceOrBreak (c : Char) : Bool := c == ' ' || isBreak c

structure Cursor where
  rest : List Char
  index : Nat := 0
  line : Nat := 0
  column : Nat := 0
deriving Repr

namespace Cursor

/-- The place behind the next character. A byte order mark has no width. -/
def next (c : Cursor) : Cursor :=
  match c.rest with
  | [] => c
  | x :: r =>
    if isBreak x then ⟨r, c.index + 1, c.line + 1, 0⟩
    else if x = '\uFEFF' then ⟨r, c.index + 1, c.line, c.column⟩
    else ⟨r, c.index + 1, c.line, c.column + 1⟩

/-- The place `n` characters on. -/
def skip : Nat → Cursor → Cursor
  | 0, c => c
  | n + 1, c => skip n c.next

/-- The characters before the first that fails the test, and the place behind them. -/
def span (p : Char → Bool) (c : Cursor) : List Char × Cursor :=
  let run := c.rest.takeWhile p
  (run, c.skip run.length)

/-- The place behind the characters that pass the test. -/
def skipWhile (p : Char → Bool) (c : Cursor) : Cursor := (c.span p).2

def skipSpaces (c : Cursor) : Cursor := c.skipWhile (· == ' ')

def atEnd (c : Cursor) : Bool := c.rest.isEmpty

/-- There is a next character and it passes the test. -/
def sees (p : Char → Bool) (c : Cursor) : Bool := c.rest.head?.any p

/-- The next character passes the test, or there is none. -/
def seesOnly (p : Char → Bool) (c : Cursor) : Bool := c.rest.head?.all p

/-- The line break at this place and the place behind it. Only the two separators keep their form;
every other break is a line feed. -/
def takeBreak? (c : Cursor) : Option (Char × Cursor) :=
  match c.rest with
  | x :: _ =>
    if isBreak x then some (if x = '\u2028' || x = '\u2029' then x else '\n', c.next) else none
  | [] => none

/-- The mark stands here as a word of its own. -/
def seesWord (mark : List Char) (c : Cursor) : Bool :=
  mark.isPrefixOf c.rest && (c.rest.drop mark.length).head?.all isGap

/-- A line that starts or ends a document. -/
def seesDocumentMark (c : Cursor) : Bool := c.seesWord ['-', '-', '-'] || c.seesWord ['.', '.', '.']

end Cursor

/-- Text across a line break: one break is a space, and of several the first is dropped. A separator
stays. -/
def fold (first : Char) (more : List Char) : List Char :=
  if first != '\n' then first :: more
  else if more.isEmpty then [' ']
  else more

end FeatureRun.Yaml
