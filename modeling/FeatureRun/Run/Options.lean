import FeatureRun.Data.Cast
import FeatureRun.Text.LowerCase
import FeatureRun.Text.Split

/-!
Run options and how the environment sets them. The values that only matter when a session is opened
are kept as they were given and are read then.
-/
namespace FeatureRun.Run
open FeatureRun.Text FeatureRun.Number FeatureRun.Data

structure Options where
  headless : Bool := false
  browser : Value := .text "chromium"
  timeout : Value := .int 7000
  slowMotion : Value := .int 0
  viewport : Value := .null
  baseUrl : Option String := none
  screenshotsDirname : String := "screenshots"

/-- Names with values; a name that is not there is not set. -/
abbrev Environment := List (String × String)

/-- A variable that is set and not empty. -/
def Environment.filled? (env : Environment) (name : String) : Option String :=
  (env.lookup name).filter (· != "")

/-- The texts that switch an option on, in any case and with blanks around them. -/
def isYes (s : String) : Bool := ["1", "true", "yes", "y", "on"].contains (lower (strip s))

/-- Reads `width x height`, written with a letter x or a multiplication sign. A digit character
without a decimal value is a failure. -/
def viewportOfText (s : String) : Except CastError (Option (Int × Int)) :=
  let plain := (lowerList s.toList).map fun c => if c = '×' then 'x' else c
  match (split 'x' plain).map trim with
  | [w, h] =>
    if allDigits w && allDigits h then do
      let width ← (readInteger 10 w).mapError .conversion
      let height ← (readInteger 10 h).mapError .conversion
      .ok (some (width, height))
    else .ok none
  | _ => .ok none

/-- Reads a viewport: a pair of numbers, or a text. -/
def parseViewport (v : Value) : Except CastError (Option (Int × Int)) :=
  if !v.isTruthy then .ok none
  else
    match v.exposed with
    | .list [w, h] | .tuple [w, h] => do .ok (some (← w.toInt, ← h.toInt))
    | .text s => viewportOfText (asString s)
    | _ => .ok none

def viewportValue : Option (Int × Int) → Value
  | some (w, h) => .list [.int w, .int h]
  | none => .null

/-- An integer setting with its default. -/
def Environment.int (env : Environment) (name : String) (default : Int) :
    Except CastError Int :=
  match env.filled? name with
  | some s => (readInteger 10 s.toList).mapError .conversion
  | none => .ok default

/-- The options that the environment sets. -/
def Options.ofEnvironment (env : Environment) : Except CastError Options := do
  let headless :=
    match env.lookup "HEADLESS" with
    | some s => isYes s
    | none => isYes ((env.lookup "CI").getD "")
  let browser := lower (strip ((env.filled? "BROWSER").getD "chromium"))
  let timeout ← env.int "SPEC_TIMEOUT_MS" 7000
  let slowMotion ← env.int "SLOW_MO" 0
  let viewport ← parseViewport (.text ((env.lookup "VIEWPORT").getD ""))
  .ok {
    headless
    browser := .text browser
    timeout := .int timeout
    slowMotion := .int slowMotion
    viewport := viewportValue viewport
    baseUrl := env.filled? "SPEC_BASE_URL"
    screenshotsDirname := (env.filled? "SPEC_SCREENSHOTS_DIR").getD "screenshots"
  }

/-- The size of the window: both sides positive, or none. -/
def windowSize (viewport : Value) : Except CastError (Option (Int × Int)) :=
  if !viewport.isTruthy then .ok none
  else do
    let w ← (← viewport.part 0).toInt
    let h ← (← viewport.part 1).toInt
    .ok (if 0 < w && 0 < h then some (w, h) else none)

/-- A number of milliseconds that takes effect only if it is positive. -/
def positiveMilliseconds (v : Value) : Except CastError (Option Int) :=
  if !v.isTruthy then .ok none
  else do
    let n ← v.toInt
    .ok (if 0 < n then some n else none)

end FeatureRun.Run
