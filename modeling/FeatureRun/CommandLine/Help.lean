import FeatureRun.Report.SummaryTable

/-!
The usage line and the help of the command, on terminals of any width.
-/
namespace FeatureRun.CommandLine
open FeatureRun.Text FeatureRun.Report

/-- The columns that texts are put on: two stay free, but texts get at least 11. -/
def textWidth (columns : Nat) : Nat := max (columns - 2) 11

def programName : String := "run-spec"

def usageLead : String := "usage: "

/-- The parts of the usage: options, then operands. A part stays in one piece. -/
def optionParts : List String := ["[-h]"]

def operandParts : List String := ["specs", "[specs ...]"]

/-- Puts parts on lines behind `indent` columns; `line` holds the parts of the line begun. -/
def partLines (width indent : Nat) (line : List String) : List String → List String
  | [] => if line.isEmpty then [] else [" ".intercalate line]
  | part :: parts =>
    if !line.isEmpty && width < indent + (" ".intercalate line).length + 1 + part.length then
      " ".intercalate line :: partLines width indent [part] parts
    else partLines width indent (line ++ [part]) parts

/-- How the command is called. Where one line is too short, options and operands have lines of their
own behind the name of the program, or below it if the name takes up most of a line. -/
def usage (columns : Nat) : String :=
  let width := textWidth columns
  let opened := usageLead ++ programName
  let whole := " ".intercalate (opened :: optionParts ++ operandParts)
  let linesAt (indent : Nat) : List String :=
    partLines width indent [] optionParts ++ partLines width indent [] operandParts
  let joined (indent : Nat) (lines : List String) : String :=
    ("\n" ++ repeated indent " ").intercalate lines
  if whole.length ≤ width then whole ++ "\n"
  else if 4 * opened.length ≤ 3 * width then
    let indent := opened.length + 1
    opened ++ " " ++ joined indent (linesAt indent) ++ "\n"
  else joined usageLead.length (opened :: linesAt usageLead.length) ++ "\n"

/-- A paragraph of the help. -/
def paragraph (columns : Nat) (s : String) : String :=
  String.join ((fill (textWidth columns) s.toList).map fun line => String.ofList line ++ "\n")

/-- The column at which the meanings of arguments start. -/
def meaningColumn (columns : Nat) : Nat := min 14 (max (columns - 22) 4)

/-- The help for one argument: its names, and behind them or below what they mean. -/
def helpEntry (columns : Nat) (names meaning : String) : String :=
  let start := meaningColumn columns
  let lines := (fill (max (columns - 2 - start) 11) meaning.toList).map String.ofList
  let below (ls : List String) : String :=
    String.join (ls.map fun line => repeated start " " ++ line ++ "\n")
  if names.length + 4 ≤ start then
    "  " ++ padRight (start - 2) names ++ lines.headD "" ++ "\n" ++ below lines.tail
  else "  " ++ names ++ "\n" ++ below lines

def helpText (columns : Nat) : String :=
  usage columns ++ "\n" ++
    paragraph columns "Run YAML feature specs in a real browser (Playwright)." ++
    "\npositional arguments:\n" ++
    helpEntry columns "specs" "Path(s) to YAML spec files" ++
    "\noptions:\n" ++
    helpEntry columns "-h, --help" "show this help message and exit" ++ "\n" ++
    paragraph columns
      "Set HEADLESS=1 for CI; BROWSER, SPEC_BASE_URL and SPEC_TIMEOUT_MS tune the run."

end FeatureRun.CommandLine
