import FeatureRun.Report.Piece
import FeatureRun.Run.Result

/-!
The summary of a run as a table with its exit code. A table that is wider than the terminal has its
widest columns narrowed, and texts without room end in an ellipsis.
-/
namespace FeatureRun.Report
open FeatureRun.Text FeatureRun.Run
open scoped FeatureRun.CoreInstances

def repeated (n : Nat) (s : String) : String := String.join (List.replicate n s)

/-- The text with blanks before it. -/
def padLeft (width : Nat) (s : String) : String := repeated (width - s.length) " " ++ s

/-- The text with blanks behind it. -/
def padRight (width : Nat) (s : String) : String := s ++ repeated (width - s.length) " "

/-- The text in the middle; an odd blank stands behind it. -/
def centred (width : Nat) (s : String) : String :=
  let left := (width - s.length) / 2
  repeated left " " ++ s ++ repeated (width - s.length - left) " "

/-- A column: its header and its cells, set to the left or to the right. -/
structure Column where
  header : String
  toRight : Bool
  cells : List Piece

/-- The width of the widest text with a blank on both sides. -/
def Column.width (c : Column) : Nat :=
  (c.cells.map (·.text.length)).foldl max c.header.length + 2

/-- The quotient to the nearest integer; of two the even one. -/
def nearestQuotient (n k : Nat) : Nat :=
  if 2 * (n % k) < k || (2 * (n % k) = k && n / k % 2 = 0) then n / k else n / k + 1

/-- Takes a number of units from widths in equal shares, from each as many as it can spare. -/
def takeShares (units : Nat) : List (Nat × Nat) → List Nat
  | [] => []
  | (width, spare) :: rest =>
    if spare = 0 then width :: takeShares units rest
    else
      let share := min spare (nearestQuotient units ((rest.filter (·.2 != 0)).length + 1))
      (width - share) :: takeShares (units - share) rest

/-- Narrows the widest columns to the next width, and so on, until all have room. Every step takes
something away. -/
def narrowed (room : Nat) : Nat → List Nat → List Nat
  | 0, widths => widths
  | n + 1, widths =>
    let excess := widths.sum - room
    let widest := widths.foldl max 0
    let next := (widths.filter (· != widest)).foldl max 0
    if excess = 0 || widest = next then widths
    else
      let spare (w : Nat) := if w = widest then min excess (widest - next) else 0
      narrowed room n (takeShares excess (widths.map fun w => (w, spare w)))

/-- The widths of the columns when there are `room` characters between the lines. -/
def columnWidths (room : Nat) (columns : List Column) : List Nat :=
  let widths := columns.map fun c => if room = 0 then 1 else min room c.width
  narrowed room widths.sum widths

/-- A text that fills its column. -/
def fitted (width : Nat) (toRight : Bool) (s : String) : String :=
  if width < s.length then String.ofList (s.toList.take (width - 1)) ++ "…"
  else if toRight then padLeft width s
  else padRight width s

/-- A cell; the blanks around it have a style of their own. Without room for a text it is blank. -/
def cell (blank : Style) (toRight : Bool) (width : Nat) (p : Piece) : Line :=
  if width = 0 then []
  else if width ≤ 2 then [⟨blank, repeated width " "⟩]
  else [⟨blank, " "⟩, { p with text := fitted (width - 2) toRight p.text }, ⟨blank, " "⟩]

/-- A row of cells with `edge` around each. A row without room for any text has no style. -/
def row (edge : String) (blank : Style) (columns : List Column) (widths : List Nat)
    (cells : List Piece) : Line :=
  let blank := if widths.any (2 < ·) then blank else .plain
  plain edge :: ((columns.zip widths).zip cells).flatMap fun c =>
    cell blank c.1.1.toRight c.1.2 c.2 ++ [plain edge]

/-- A horizontal line of the table. -/
def rule (left line cross right : String) (widths : List Nat) : Line :=
  [plain (left ++ cross.intercalate (widths.map (repeated · line)) ++ right)]

/-- The cells of row `i`. -/
def cellsAt (columns : List Column) (i : Nat) : List Piece :=
  columns.map fun c => (c.cells[i]?).getD (plain "")

/-- The lines of a table of two rows under its title. -/
def tableLines (width : Nat) (title : String) (columns : List Column) : List Line :=
  let widths := columnWidths (width - (columns.length + 1)) columns
  let total := widths.sum + columns.length + 1
  let titleLines := (wrap total title.toList).map fun s =>
    [⟨.italic, centred total (String.ofList (trimRightWith (· == ' ') s))⟩]
  let header := columns.map fun c => (⟨.boldCyan, c.header⟩ : Piece)
  titleLines ++
    [rule "┏" "━" "┳" "┓" widths, row "┃" .boldCyan columns widths header,
      rule "┡" "━" "╇" "┩" widths, row "│" .plain columns widths (cellsAt columns 0),
      row "│" .plain columns widths (cellsAt columns 1), rule "└" "─" "┴" "┘" widths]

/-- The style of a number of failures. Those of active specs stand out. -/
def failureStyle (isActive : Bool) (failed : Int) : Style :=
  if failed = 0 then .green else if isActive then .boldRed else .yellow

/-- The counts by status. -/
def summaryColumns (s : Summary) : List Column := [
  ⟨"Status", false, [plain "active", plain "draft"]⟩,
  ⟨"Passed", true, [⟨.green, toString s.active.passed⟩, ⟨.green, toString s.draft.passed⟩]⟩,
  ⟨"Failed", true, [⟨failureStyle true s.active.failed, toString s.active.failed⟩,
    ⟨failureStyle false s.draft.failed, toString s.draft.failed⟩]⟩]

/-- The line that says how many files could not be loaded. -/
def loadErrorsLine (n : Int) : Line :=
  [⟨.boldYellow, toString n⟩, ⟨.yellow, " spec "⟩, ⟨.boldYellow, "file"⟩, ⟨.boldYellow, "("⟩,
    ⟨.yellow, "s"⟩, ⟨.boldYellow, ")"⟩, ⟨.yellow, " could not be loaded"⟩]

def exitLine (code : Nat) : Line :=
  [⟨if code = 0 then .boldGreen else .boldRed, "Exit code: " ++ toString code⟩]

/-- The lines of a summary on a terminal of so many columns. -/
def summaryLines (width : Nat) (s : Summary) : List Line :=
  [[]] ++ tableLines width "Spec run summary" (summaryColumns s) ++
    (if s.loadErrors = 0 then [] else (loadErrorsLine s.loadErrors).wrapped width) ++
    (exitLine s.exitCode).wrapped width

/-- A summary as text. What is wider than the terminal is cut off, and a terminal without columns
shows nothing. -/
def summaryText (width : Nat) (colour : Bool) (s : Summary) : String :=
  if width = 0 then ""
  else String.join ((summaryLines width s).map fun line => (line.take width).render colour)

end FeatureRun.Report
