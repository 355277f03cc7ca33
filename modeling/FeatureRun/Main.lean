import FeatureRun.CommandLine.Command

/-!
The program: it takes the environment and the spec files as they are, runs the command on a blank
page and prints what was noticed.
-/
namespace FeatureRun.CommandLine
open FeatureRun.Files FeatureRun.Run FeatureRun.Browser

/-- The variables that matter. -/
def variableNames : List String :=
  ["HEADLESS", "CI", "BROWSER", "SPEC_TIMEOUT_MS", "SLOW_MO", "VIEWPORT", "SPEC_BASE_URL",
    "SPEC_SCREENSHOTS_DIR", "COLUMNS"]

def readEnvironment : IO Environment :=
  variableNames.filterMapM fun name => do
    match ← IO.getEnv name with
    | some value => return some (name, value)
    | none => return none

/-- Where the program runs. -/
def startDirectory : List String := ["work"]

def startTree : Tree := ⟨[(startDirectory, .directory)], startDirectory⟩

/-- Puts a file with the directories above it into a tree. -/
def addFile (t : Tree) (path : Path) (content : List UInt8) : Tree :=
  let t := (t.haveDirectories path.parent).tree
  match t.write path content with
  | .ok t => t
  | .error _ => t

/-- The spec files that can be read. -/
def readTree (specs : List String) : IO Tree :=
  specs.foldlM (fun t (spec : String) => do
    try return addFile t (Path.ofString spec) (← IO.FS.readBinFile spec).toList
    catch _ => return t) startTree

/-- The picks of a number of tokens. -/
def drawPicks (n : Nat) : IO (List Int) :=
  (List.range n).mapM fun _ => do return (← IO.rand 0 35)

end FeatureRun.CommandLine

open FeatureRun.Run FeatureRun.CommandLine in
/-- Runs the command with its arguments. -/
def main (arguments : List String) : IO UInt32 := do
  let env ← readEnvironment
  let files ←
    match Request.of arguments with
    | .run specs => readTree specs
    | _ => pure startTree
  let picks ← drawPicks (tokenLength * (arguments.length + 1))
  let world : World := { page := {}, files, picks := ⟨picks, 0⟩ }
  let (result, after) := (command env arguments).outcome world
  for notice in after.notices do
    IO.print notice.text
  match result with
  | .ok exit => do
    IO.print exit.output
    IO.eprint exit.errorOutput
    return exit.code.toUInt32
  | .error e => do
    IO.eprintln (e.kind ++ ": " ++ e.message)
    return 1
