import FeatureRun.Yaml.QuotedForm

/-!
Texts written as indented lines. A literal text keeps its line breaks; a folded one joins lines that
start with no blank. What becomes of the breaks at the end is said in the header.
-/
namespace FeatureRun.Yaml
open FeatureRun.Text

/-- The breaks behind the last line: none of them, the first, or all. -/
inductive Chomp where
  | none
  | first
  | all
deriving DecidableEq, Repr

/-- The rest of a line that holds nothing but a comment. -/
def restOfLine (c : Cursor) : Except Failure Cursor :=
  let c := c.skipSpaces
  let c := if c.sees (· == '#') then c.skipWhile (!isBreak ·) else c
  if c.atEnd then .ok c
  else
    match c.takeBreak? with
    | some (_, c) => .ok c
    | none => scannerFault

/-- The sign that says which breaks stay. -/
def takeChomp (c : Cursor) : Option Chomp × Cursor :=
  match c.rest with
  | '+' :: _ => (some .all, c.next)
  | '-' :: _ => (some .none, c.next)
  | _ => (none, c)

/-- The digit that says how far the lines are indented. It is not zero. -/
def takeIndent (c : Cursor) : Except Failure (Option Nat × Cursor) :=
  match c.rest with
  | d :: _ =>
    if d = '0' then scannerFault
    else if d.isDigit then .ok (some (d.toNat - 0x30), c.next)
    else .ok (none, c)
  | [] => .ok (none, c)

/-- The header: sign and digit in any order. -/
def blockHeader (c : Cursor) : Except Failure (Chomp × Option Nat × Cursor) := do
  let (before, c) := takeChomp c
  let (indent, c) ← takeIndent c
  let (behind, c) := if before.isNone && indent.isSome then takeChomp c else (none, c)
  if c.seesOnly isSpaceOrBreak then .ok ((before.or behind).getD .first, indent, ← restOfLine c)
  else scannerFault

/-- The breaks before the first line, and the widest indentation seen. -/
def leadingBreaks : Nat → Nat → Cursor → List Char × Nat × Cursor
  | 0, widest, c => ([], widest, c)
  | n + 1, widest, c =>
    if c.sees (· == ' ') then leadingBreaks n (max widest c.next.column) c.next
    else
      match c.takeBreak? with
      | some (b, c) =>
        let (more, widest, c) := leadingBreaks n widest c
        (b :: more, widest, c)
      | none => ([], widest, c)

/-- The place behind the indentation, or behind as much of it as there is. -/
def skipIndent (indent : Nat) (c : Cursor) : Cursor :=
  c.skip (min (indent - c.column) (c.rest.takeWhile (· == ' ')).length)

/-- The breaks of empty lines, and the place behind the indentation of the next line. -/
def blockBreaks (indent : Nat) : Nat → Cursor → List Char × Cursor
  | 0, c => ([], skipIndent indent c)
  | n + 1, c =>
    let c := skipIndent indent c
    match c.takeBreak? with
    | some (b, c) =>
      let (more, c) := blockBreaks indent n c
      (b :: more, c)
    | none => ([], c)

/-- The lines of a text, the break behind the last one, and the breaks of the empty lines behind
that. -/
structure BlockLines where
  text : List Char
  lastBreak : List Char
  empty : List Char
  stop : Cursor

/-- The lines from this place on, behind `empty` breaks. -/
def blockLines (folded : Bool) (indent : Nat) : Nat → List Char → Cursor → BlockLines
  | 0, empty, c => ⟨[], [], empty, c⟩
  | n + 1, empty, c =>
    if c.column != indent || c.atEnd then ⟨[], [], empty, c⟩
    else
      let startsFull := !c.sees isSpaceOrTab
      let (line, c) := c.span (!isBreak ·)
      let (lineBreak, c) :=
        match c.takeBreak? with
        | some (b, c) => ([b], c)
        | none => ([], c)
      let (more, c) := blockBreaks indent c.rest.length c
      if c.column != indent || c.atEnd then ⟨empty ++ line, lineBreak, more, c⟩
      else
        let joint :=
          if folded && lineBreak = ['\n'] && startsFull && !c.sees isSpaceOrTab then
            if more.isEmpty then [' '] else []
          else lineBreak
        let r := blockLines folded indent n more c
        { r with text := empty ++ line ++ joint ++ r.text }

/-- A text of indented lines; the place is behind its indicator. The lines are indented deeper than
what they belong to. -/
def blockText (folded : Bool) (leastIndent : Nat) (c : Cursor) :
    Except Failure (List Char × Cursor) := do
  let (chomp, given, c) ← blockHeader c
  let leastIndent := max leastIndent 1
  let (empty, indent, c) :=
    match given with
    | some n =>
      let indent := leastIndent + n - 1
      let (empty, c) := blockBreaks indent c.rest.length c
      (empty, indent, c)
    | none =>
      let (empty, widest, c) := leadingBreaks c.rest.length 0 c
      (empty, max leastIndent widest, c)
  let r := blockLines folded indent (c.rest.length + 1) empty c
  .ok (r.text ++ (if chomp = .none then [] else r.lastBreak) ++
    (if chomp = .all then r.empty else []), r.stop)

end FeatureRun.Yaml
