import FeatureRun.CommandLine.Arguments
import FeatureRun.CommandLine.Help
import FeatureRun.Run.Runner

/-!
The command: it runs the specs that it is given, prints their summary and ends with its exit code.
-/
namespace FeatureRun.CommandLine
open FeatureRun.Text FeatureRun.Files FeatureRun.Run FeatureRun.Report

/-- The exit code of a command, with what it prints behind the notices of the run. -/
structure Exit where
  code : Nat
  output : String := ""
  errorOutput : String := ""
deriving DecidableEq, Repr

/-- The columns of a terminal that does not say how many it has. -/
def defaultColumns : Nat := 80

/-- The columns that help is written for. -/
def helpColumns (env : Environment) : Nat :=
  match (env.lookup "COLUMNS").map fun s => Number.readInteger 10 s.toList with
  | some (.ok n) => if 0 < n then n.toNat else defaultColumns
  | _ => defaultColumns

/-- The columns that the summary is written for. A digit character without a decimal value is a
failure. -/
def terminalColumns (env : Environment) : Except Number.ConversionError Nat :=
  match env.lookup "COLUMNS" with
  | some s =>
    if allDigits s.toList then (Number.readInteger 10 s.toList).map Int.toNat
    else .ok defaultColumns
  | none => .ok defaultColumns

/-- Runs a command. -/
def command (env : Environment) (arguments : List String) : Run Exit :=
  match Request.of arguments with
  | .help => pure { code := 0, output := helpText (helpColumns env) }
  | .refused e =>
    pure {
      code := 2
      errorOutput := usage (helpColumns env) ++ programName ++ ": error: " ++
        e.message ++ "\n" }
  | .run specs => do
    let options ← ofExcept .cast (Options.ofEnvironment env)
    let summary ← runSpecs options {} (specs.map Path.ofString)
    let columns ← ofExcept Failure.conversion (terminalColumns env)
    pure { code := summary.exitCode, output := summaryText columns false summary }

end FeatureRun.CommandLine
