import FeatureRun.Yaml.Cursor
import FeatureRun.Yaml.Fault

/-!
Texts in quotes. Between quotation marks a backslash starts an escape; between apostrophes the only
escape is the apostrophe written twice. Line breaks are folded in both.
-/
namespace FeatureRun.Yaml
open FeatureRun.Text

def scannerFault {α : Type} : Except Failure α := .error (.fault .scanner)

/-- The character that a letter behind a backslash stands for. -/
def escaped? (c : Char) : Option Char :=
  [('0', '\x00'), ('a', '\x07'), ('b', '\x08'), ('t', '\t'), ('\t', '\t'), ('n', '\n'),
    ('v', '\x0b'), ('f', '\x0c'), ('r', '\r'), ('e', '\x1b'), (' ', ' '), ('"', '"'),
    ('\\', '\\'), ('/', '/'), ('N', '\u0085'), ('_', '\u00a0'), ('L', '\u2028'),
    ('P', '\u2029')].lookup c

/-- How many hexadecimal digits follow a letter behind a backslash. -/
def escapeDigits? (c : Char) : Option Nat := [('x', 2), ('u', 4), ('U', 8)].lookup c

/-- The value of hexadecimal digits. -/
def hexNumber? (s : List Char) : Option Nat :=
  s.foldl (fun n c => do return 16 * (← n) + (← hexValue? c)) (some 0)

/-- The code point of a number. -/
def codePointOf (n : Nat) : Except Failure CodePoint :=
  match CodePoint.ofCode? n with
  | some p => .ok p
  | none => .error (.codePoint n)

/-- The breaks at the start of lines inside quotes. The mark of a document may not stand there. -/
def quotedBreaks : Nat → Cursor → Except Failure (List Char × Cursor)
  | 0, _ => scannerFault
  | n + 1, c =>
    if c.seesDocumentMark then scannerFault
    else
      let c := c.skipWhile isSpaceOrTab
      match c.takeBreak? with
      | none => .ok ([], c)
      | some (b, c) => do
        let (more, c) ← quotedBreaks n c
        .ok (b :: more, c)

/-- Spaces inside quotes, with a line break folded. -/
def quotedGap (c : Cursor) : Except Failure (List CodePoint × Cursor) :=
  let (spaces, c) := c.span isSpaceOrTab
  match c.takeBreak? with
  | some (b, c) => do
    let (more, c) ← quotedBreaks (c.rest.length + 1) c
    .ok (codePoints (fold b more), c)
  | none => .ok (codePoints spaces, c)

/-- What an escape stands for; the place is behind its backslash. -/
def quotedEscape (c : Cursor) : Except Failure (List CodePoint × Cursor) :=
  match c.rest with
  | [] => scannerFault
  | x :: r =>
    match escaped? x, escapeDigits? x, c.takeBreak? with
    | some y, _, _ => .ok ([.char y], c.next)
    | none, some n, _ =>
      if r.length < n then scannerFault
      else
        match hexNumber? (r.take n) with
        | some code => do .ok ([← codePointOf code], c.next.skip n)
        | none => scannerFault
    | none, none, some (_, c) => do
      let (breaks, c) ← quotedBreaks (c.rest.length + 1) c
      .ok (codePoints breaks, c)
    | none, none, none => scannerFault

/-- The text up to the closing quote, and the place behind the quote. -/
def quotedFrom (quote : Char) : Nat → Cursor → Except Failure (List CodePoint × Cursor)
  | 0, _ => scannerFault
  | n + 1, c =>
    match c.rest with
    | [] => scannerFault
    | x :: r =>
      if x = quote && (quote = '"' || r.head? != some quote) then .ok ([], c.next)
      else do
        let (piece, c) ←
          if x = quote then .ok ([.char x], c.skip 2)
          else if quote = '"' && x = '\\' then quotedEscape c.next
          else if isGap x then quotedGap c
          else .ok ([.char x], c.next)
        let (more, c) ← quotedFrom quote n c
        .ok (piece ++ more, c)

/-- A text in quotes; the place is behind the opening quote. -/
def quotedText (quote : Char) (c : Cursor) : Except Failure (List CodePoint × Cursor) :=
  quotedFrom quote (c.rest.length + 1) c

end FeatureRun.Yaml
