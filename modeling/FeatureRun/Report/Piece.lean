import FeatureRun.Text.Wrap

/-!
Lines of styled pieces. On a terminal a piece is written between the codes of its style; without
colour only the texts are left.
-/
namespace FeatureRun.Report
open FeatureRun.Text

inductive Style where
  | plain
  | italic
  | green
  | yellow
  | boldGreen
  | boldYellow
  | boldRed
  | boldCyan
deriving DecidableEq, Repr

/-- The codes that switch a style on; plain text has none. -/
def Style.codes : Style → String
  | .plain => ""
  | .italic => "3"
  | .green => "32"
  | .yellow => "33"
  | .boldGreen => "1;32"
  | .boldYellow => "1;33"
  | .boldRed => "1;31"
  | .boldCyan => "1;36"

/-- A text in one style. -/
structure Piece where
  style : Style
  text : String
deriving DecidableEq, Repr

/-- A piece as it is written to a terminal with or without colours. -/
def Piece.render (colour : Bool) (p : Piece) : String :=
  if colour && p.style != .plain then "\x1b[" ++ p.style.codes ++ "m" ++ p.text ++ "\x1b[0m"
  else p.text

def plain (s : String) : Piece := ⟨.plain, s⟩

abbrev Line := List Piece

namespace Line

def text (line : Line) : List Char := line.flatMap (·.text.toList)

/-- The first `n` characters of a line. -/
def take : Nat → Line → Line
  | 0, _ => []
  | _, [] => []
  | n + 1, p :: ps =>
    if p.text.length ≤ n + 1 then p :: take (n + 1 - p.text.length) ps
    else [{ p with text := String.ofList (p.text.toList.take (n + 1)) }]

/-- The line without its first `n` characters. -/
def drop : Nat → Line → Line
  | 0, line => line
  | _, [] => []
  | n + 1, p :: ps =>
    if p.text.length ≤ n + 1 then drop (n + 1 - p.text.length) ps
    else { p with text := String.ofList (p.text.toList.drop (n + 1)) } :: ps

/-- The pieces of a line on the lines of its text. -/
def spread (width : Nat) : Line → List (List Char) → List Line
  | _, [] => []
  | line, s :: rest =>
    line.take (cropEnd width s).length :: spread width (line.drop s.length) rest

/-- The line on as many lines as it needs. -/
def wrapped (width : Nat) (line : Line) : List Line := spread width line (wrap width line.text)

def render (colour : Bool) (line : Line) : String :=
  String.join (line.map (Piece.render colour)) ++ "\n"

end Line

end FeatureRun.Report
