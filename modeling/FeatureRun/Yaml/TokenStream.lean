import FeatureRun.Yaml.Mark
import FeatureRun.Yaml.PlainForm

/-!
The tokens of a text. A colon turns what stands before it into a key, so a token that may still
become a key is held back, together with those behind it. A text with a fault has the tokens that
were let go before the fault was met.
-/
namespace FeatureRun.Yaml
open FeatureRun.Text

/-- A place where a key may have begun: the number of the token there, and whether nothing but a key
may stand there. -/
structure OpenKey where
  number : Nat
  required : Bool
  index : Nat
  line : Nat
  column : Nat
deriving Repr

structure Tokenizer where
  cursor : Cursor
  /-- The tokens held back. -/
  held : List Token := []
  /-- How many tokens have been let go. -/
  released : Nat := 0
  /-- The column of the current block; none outside all blocks. -/
  indent : Option Nat := none
  /-- The columns of the blocks around the current one. -/
  outerIndents : List (Option Nat) := []
  keyAllowed : Bool := true
  openKey : Option OpenKey := none
  /-- The open keys outside the current brackets; there is one place for each pair of brackets. -/
  outerKeys : List (Option OpenKey) := []
  finished : Bool := false

namespace Tokenizer

def inFlow (s : Tokenizer) : Bool := !s.outerKeys.isEmpty

def push (t : Token) (s : Tokenizer) : Tokenizer := { s with held := s.held ++ [t] }

/-- An open key is lost when its line ends or it gets too long. -/
def isStale (s : Tokenizer) (k : OpenKey) : Bool :=
  k.line != s.cursor.line || 1024 < s.cursor.index - k.index

/-- Drops an open key that is stale. -/
def dropStaleKey (s : Tokenizer) : Option OpenKey → Except Failure (Option OpenKey)
  | none => .ok none
  | some k =>
    if s.isStale k then if k.required then scannerFault else .ok none
    else .ok (some k)

/-- Drops the open keys that are stale. -/
def dropStale (s : Tokenizer) : Except Failure Tokenizer := do
  let outerKeys ← s.outerKeys.mapM s.dropStaleKey
  let openKey ← s.dropStaleKey s.openKey
  .ok { s with openKey, outerKeys }

/-- Gives up the open key of the current level. -/
def dropKey (s : Tokenizer) : Except Failure Tokenizer :=
  match s.openKey with
  | some k => if k.required then scannerFault else .ok { s with openKey := none }
  | none => .ok s

/-- Notes that a key may begin here. -/
def noteKey (s : Tokenizer) : Except Failure Tokenizer :=
  if s.keyAllowed then do
    let s ← s.dropKey
    let key : OpenKey :=
      { number := s.released + s.held.length
        required := !s.inFlow && s.indent == some s.cursor.column
        index := s.cursor.index
        line := s.cursor.line
        column := s.cursor.column }
    .ok { s with openKey := some key }
  else .ok s

/-- The column of a block, where a block that is none is to the left of all. -/
def isLeftOf (indent : Option Nat) (column : Nat) : Bool := indent.all (· < column)

/-- Ends the blocks to the right of a column; without a column, all of them. -/
def unwindBlocks (column : Option Nat) :
    List (Option Nat) → Option Nat → List Token → List (Option Nat) × Option Nat × List Token
  | [], indent, held => ([], indent, held)
  | outer :: rest, indent, held =>
    if indent.any fun i => column.all (· < i) then
      unwindBlocks column rest outer (held ++ [.blockEnd])
    else (outer :: rest, indent, held)

/-- Ends the blocks to the right of a column. Brackets have no blocks. -/
def unwind (column : Option Nat) (s : Tokenizer) : Tokenizer :=
  if s.inFlow then s
  else
    let (outerIndents, indent, held) := unwindBlocks column s.outerIndents s.indent s.held
    { s with outerIndents, indent, held }

/-- Begins a block at a column, if it is to the right of the current block; `none` if it is not. -/
def beginBlock? (column : Nat) (s : Tokenizer) : Option Tokenizer :=
  if isLeftOf s.indent column then
    some { s with outerIndents := s.indent :: s.outerIndents, indent := some column }
  else none

/-- Begins a block here, with its token. Fails if no key may begin here. -/
def enterBlock (start : Token) (s : Tokenizer) : Except Failure Tokenizer :=
  if s.inFlow then .ok s
  else if !s.keyAllowed then scannerFault
  else
    match s.beginBlock? s.cursor.column with
    | some s => .ok (s.push start)
    | none => .ok s

/-- Takes a token of `n` characters. -/
def take (n : Nat) (t : Token) (s : Tokenizer) : Tokenizer :=
  { s.push t with cursor := s.cursor.skip n }

/-- Skips spaces, comments and empty lines. Outside brackets a key may begin on a new line. -/
def skipToToken : Nat → Tokenizer → Tokenizer
  | 0, s => s
  | n + 1, s =>
    let c := s.cursor.skipSpaces
    let c := if c.sees (· == '#') then c.skipWhile (!isBreak ·) else c
    match c.takeBreak? with
    | some (_, c) => skipToToken n { s with cursor := c, keyAllowed := s.keyAllowed || !s.inFlow }
    | none => { s with cursor := c }

/-- Skips a byte order mark at the start of the text. -/
def skipOrderMark (s : Tokenizer) : Tokenizer :=
  if s.cursor.index = 0 && s.cursor.sees (· == '\uFEFF') then { s with cursor := s.cursor.next }
  else s

def takeEnd (s : Tokenizer) : Except Failure Tokenizer := do
  let s ← (s.unwind none).dropKey
  .ok { s.push .streamEnd with
    keyAllowed := false, openKey := none, outerKeys := s.outerKeys.map fun _ => none,
    finished := true }

def takeDirectiveLine (s : Tokenizer) : Except Failure Tokenizer := do
  let s ← (s.unwind none).dropKey
  let (d, c) ← takeDirective s.cursor.next
  .ok { s.push (.directive d) with cursor := c, keyAllowed := false }

def takeDocumentMark (t : Token) (s : Tokenizer) : Except Failure Tokenizer := do
  let s ← (s.unwind none).dropKey
  .ok { s.take 3 t with keyAllowed := false }

def openBracket (t : Token) (s : Tokenizer) : Except Failure Tokenizer := do
  let s ← s.noteKey
  .ok { s.take 1 t with
    keyAllowed := true, openKey := none, outerKeys := s.openKey :: s.outerKeys }

def closeBracket (t : Token) (s : Tokenizer) : Except Failure Tokenizer := do
  let s ← s.dropKey
  let s := { s.take 1 t with keyAllowed := false }
  match s.outerKeys with
  | key :: outerKeys => .ok { s with openKey := key, outerKeys }
  | [] => .ok s

def takeFlowEntry (s : Tokenizer) : Except Failure Tokenizer := do
  let s ← s.dropKey
  .ok { s.take 1 .flowEntry with keyAllowed := true }

def takeBlockEntry (s : Tokenizer) : Except Failure Tokenizer := do
  let s ← s.enterBlock .blockSequenceStart
  let s ← { s with keyAllowed := true }.dropKey
  .ok (s.take 1 .blockEntry)

/-- A key with its own indicator. -/
def takeKey (s : Tokenizer) : Except Failure Tokenizer := do
  let s ← s.enterBlock .blockMappingStart
  let s ← { s with keyAllowed := !s.inFlow }.dropKey
  .ok (s.take 1 .key)

/-- Puts tokens before the one of this number. -/
def insertAt (number : Nat) (ts : List Token) (s : Tokenizer) : Tokenizer :=
  let i := number - s.released
  { s with held := s.held.take i ++ ts ++ s.held.drop i }

/-- The colon before a value. If a key is open, it is one now; it may begin a block. -/
def takeValue (s : Tokenizer) : Except Failure Tokenizer :=
  match s.openKey with
  | some k =>
    let s := { s with openKey := none, keyAllowed := false }
    let s :=
      match if s.inFlow then none else s.beginBlock? k.column with
      | some s => s.insertAt k.number [.blockMappingStart, .key]
      | none => s.insertAt k.number [.key]
    .ok (s.take 1 .value)
  | none => do
    let s ← s.enterBlock .blockMappingStart
    .ok ({ s with keyAllowed := !s.inFlow }.take 1 .value)

/-- Takes a token that may begin a key. -/
def takeKeyed (scan : Cursor → Except Failure (Token × Cursor)) (s : Tokenizer) :
    Except Failure Tokenizer := do
  let s ← s.noteKey
  let (t, c) ← scan s.cursor
  .ok { s.push t with cursor := c, keyAllowed := false }

/-- The least column of what belongs to the current block. -/
def leastColumn (s : Tokenizer) : Nat :=
  match s.indent with
  | some i => i + 1
  | none => 0

def takeBlockText (folded : Bool) (s : Tokenizer) : Except Failure Tokenizer := do
  let s ← { s with keyAllowed := true }.dropKey
  let (text, c) ← blockText folded s.leastColumn s.cursor.next
  .ok { s.push (.scalar (codePoints text) false) with cursor := c }

def takePlain (s : Tokenizer) : Except Failure Tokenizer := do
  let s ← s.noteKey
  let (text, c, broken) := plainText s.inFlow s.leastColumn s.cursor
  .ok { s.push (.scalar (codePoints text) true) with cursor := c, keyAllowed := broken }

/-- A text without quotes may start with this character, which stands before `r`. -/
def startsPlain (inFlow : Bool) (x : Char) (r : List Char) : Bool :=
  let isIndicator := isGap x || isBracket x ||
    ['-', '?', ':', ',', '#', '&', '*', '!', '|', '>', '\'', '"', '%', '@', '\x60'].contains x
  !isIndicator ||
    ((r.head?.any (!isGap ·)) && (x == '-' || (!inFlow && (x == '?' || x == ':'))))

/-- Takes the token that starts with `x`, which stands before `r`. -/
def takeToken (x : Char) (r : List Char) (s : Tokenizer) : Except Failure Tokenizer :=
  let beforeGap := r.head?.all isGap
  let atMargin := s.cursor.column == 0
  if atMargin && x == '%' then s.takeDirectiveLine
  else if atMargin && s.cursor.seesWord ['-', '-', '-'] then s.takeDocumentMark .documentStart
  else if atMargin && s.cursor.seesWord ['.', '.', '.'] then s.takeDocumentMark .documentEnd
  else if x == '[' then s.openBracket .flowSequenceStart
  else if x == '{' then s.openBracket .flowMappingStart
  else if x == ']' then s.closeBracket .flowSequenceEnd
  else if x == '}' then s.closeBracket .flowMappingEnd
  else if x == ',' then s.takeFlowEntry
  else if x == '-' && beforeGap then s.takeBlockEntry
  else if x == '?' && (s.inFlow || beforeGap) then s.takeKey
  else if x == ':' && (s.inFlow || beforeGap) then s.takeValue
  else if x == '*' then
    s.takeKeyed fun c => do
      let (name, c) ← anchorName c.next
      .ok (.alias name, c)
  else if x == '&' then
    s.takeKeyed fun c => do
      let (name, c) ← anchorName c.next
      .ok (.anchor name, c)
  else if x == '!' then s.takeKeyed takeTag
  else if x == '|' && !s.inFlow then s.takeBlockText false
  else if x == '>' && !s.inFlow then s.takeBlockText true
  else if x == '\'' || x == '"' then
    s.takeKeyed fun c => do
      let (text, c) ← quotedText x c.next
      .ok (.scalar text false, c)
  else if startsPlain s.inFlow x r then s.takePlain
  else scannerFault

/-- Takes the next token, or the end. -/
def fetch (s : Tokenizer) : Except Failure Tokenizer := do
  let s := s.skipOrderMark
  let s ← (s.skipToToken (s.cursor.rest.length + 1)).dropStale
  let s := s.unwind (some s.cursor.column)
  match s.cursor.rest with
  | [] => s.takeEnd
  | x :: r => s.takeToken x r

/-- The first token held back may still become a key. -/
def holdsFirst (s : Tokenizer) : Bool :=
  (s.openKey :: s.outerKeys).any fun key => key.any (·.number == s.released)

/-- The tokens let go, and the failure that ends them. -/
def run : Nat → Tokenizer → List Token × Option Failure
  | 0, _ => ([], some (.fault .scanner))
  | n + 1, s =>
    if s.finished then (s.held, none)
    else
      match s.dropStale with
      | .error e => ([], some e)
      | .ok s =>
        let fetchOn (_ : Unit) :=
          match s.fetch with
          | .error e => ([], some e)
          | .ok s => run n s
        match s.held with
        | [] => fetchOn ()
        | t :: held =>
          if s.holdsFirst then fetchOn ()
          else
            let (ts, e) := run n { s with held, released := s.released + 1 }
            (t :: ts, e)

end Tokenizer

/-- The tokens of a text up to its end, or up to a fault. No character gives more than four steps.
-/
def tokens (s : List Char) : List Token × Option Failure :=
  Tokenizer.run (8 * s.length + 16) { cursor := { rest := s } }

end FeatureRun.Yaml
