import FeatureRun.Text.Blank
import FeatureRun.Text.Split

/-!
Texts on lines of limited width. A word that is wider than a line is cut. Filled lines drop the
blanks at which they end; wrapped lines keep the blanks that have room, so that no character moves.
-/
namespace FeatureRun.Text

/-- Cuts a text into pieces of `width` characters, the first of which has room for `room` only. -/
def cut (width : Nat) : Nat → List Char → List (List Char)
  | _, [] => [[]]
  | 0, c :: r =>
    match cut width (width - 1) r with
    | [] => [[], [c]]
    | piece :: pieces => [] :: (c :: piece) :: pieces
  | room + 1, c :: r =>
    match cut width room r with
    | [] => [[c]]
    | piece :: pieces => (c :: piece) :: pieces

theorem flatten_cut (width room : Nat) (s : List Char) : (cut width room s).flatten = s := by
  fun_induction cut width room s <;> simp_all

/-- Puts words on lines with a blank between two words. A word that is wider than a line fills the
line begun and goes on below. -/
def fillWords (width : Nat) (line : List Char) : List (List Char) → List (List Char)
  | [] => [line]
  | w :: ws =>
    let begun := if line.isEmpty then [] else line ++ [' ']
    if begun.length + w.length ≤ width then fillWords width (begun ++ w) ws
    else
      let lines :=
        if width < w.length && begun.length ≤ width then
          match cut width (width - begun.length) w with
          | piece :: pieces => (begun ++ piece) :: pieces
          | [] => [begun]
        else line :: cut width width w
      lines.dropLast ++ fillWords width (lines.getLast?.getD []) ws

/-- The text on filled lines. -/
def fill (width : Nat) (s : List Char) : List (List Char) := fillWords width [] (split ' ' s)

/-- The words of a text, each with the blanks behind it. -/
def spacedWords : List Char → List (List Char)
  | [] => []
  | c :: r =>
    match spacedWords r with
    | [] => [[c]]
    | w :: ws => if c = ' ' && w.head? != some ' ' then [c] :: w :: ws else (c :: w) :: ws

/-- Puts words on lines. The blanks behind a word need no room. -/
def wrapWords (width : Nat) (line : List Char) : List (List Char) → List (List Char)
  | [] => [line]
  | w :: ws =>
    let size := (trimRightWith (· == ' ') w).length
    if line.length + size ≤ width then wrapWords width (line ++ w) ws
    else
      let pieces := if width < size then cut width width w else [w]
      let lines := if line.isEmpty then pieces else line :: pieces
      lines.dropLast ++ wrapWords width (lines.getLast?.getD []) ws

/-- The text on lines that together are the text; blanks at their ends may have no room. -/
def wrap (width : Nat) (s : List Char) : List (List Char) := wrapWords width [] (spacedWords s)

/-- The line without the blanks at its end that have no room. -/
def cropEnd (width : Nat) (line : List Char) : List Char :=
  line.take (max width (trimRightWith (· == ' ') line).length)

end FeatureRun.Text
