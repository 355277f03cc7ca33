import FeatureRun.Browser.Page
import FeatureRun.Run.Result
import FeatureRun.Run.Token

/-!
What a run sees and leaves behind: the page and the calls on it, the steps of the browser sessions,
the files, the notices printed and the picks used. A run that fails keeps all of this.
-/
namespace FeatureRun.Run
open FeatureRun.Data FeatureRun.Files FeatureRun.Spec FeatureRun.Browser

/-- The engines that a session can launch. -/
inductive BrowserEngine where
  | chromium
  | firefox
  | webkit
deriving DecidableEq, Repr

def BrowserEngine.name : BrowserEngine → String
  | .chromium => "chromium"
  | .firefox => "firefox"
  | .webkit => "webkit"

/-- The engine of a name. -/
def BrowserEngine.named? (name : String) : Option BrowserEngine :=
  if name = "chromium" || name = "chrome" then some .chromium
  else if name = "firefox" || name = "ff" then some .firefox
  else if name = "webkit" || name = "safari" then some .webkit
  else none

/-- The steps that open and close a session. -/
inductive SessionStep where
  | start
  | launch
  | newContext
  | newPage
  | closeContext
  | closeBrowser
  | stop
deriving DecidableEq, Repr

/-- A session step as it was taken. -/
inductive SessionEvent where
  | start
  | launch (engine : BrowserEngine) (headless : Bool) (slowMotion : Option Int)
  | newContext (window : Option (Int × Int))
  | newPage
  | closeContext
  | closeBrowser
  | stop
deriving DecidableEq, Repr

def SessionEvent.step : SessionEvent → SessionStep
  | .start => .start
  | .launch _ _ _ => .launch
  | .newContext _ => .newContext
  | .newPage => .newPage
  | .closeContext => .closeContext
  | .closeBrowser => .closeBrowser
  | .stop => .stop

/-- What is printed in the course of a run. -/
inductive Notice where
  | specStarted (feature : String) (status : Status) (path : Path)
  | scenarioStarted (name : String)
  | stepStarted (action payload : String)
  | screenshotTaken (path : Path)
  | scenarioPassed
  | scenarioFailed (error : String) (screenshot : Option String)
  | warning (message : String)
  | specFinished (passed failed : Int)
  | loadFailed (path : Path) (error : String)
deriving DecidableEq, Repr

def Notice.text : Notice → String
  | .specStarted feature status path =>
    "\n🧪 Running: " ++ feature ++ "  [" ++ status.name ++ "]  (" ++ path.text ++ ")\n\n"
  | .scenarioStarted name => "  📋 Scenario: " ++ name ++ "\n"
  | .stepStarted action payload => "     → " ++ action ++ ": " ++ payload ++ "\n"
  | .screenshotTaken path => "     📸 " ++ path.text ++ "\n"
  | .scenarioPassed => "     ✅ PASSED\n\n"
  | .scenarioFailed error screenshot =>
    "     ❌ FAILED: " ++ error ++ "\n" ++
      (match screenshot with
        | some path => "     📸 Screenshot: " ++ path ++ "\n"
        | none => "") ++ "\n"
  | .warning message => "[WARN] " ++ message ++ "\n"
  | .specFinished passed failed =>
    "📊 Results: " ++ toString passed ++ " passed, " ++ toString failed ++ " failed\n\n"
  | .loadFailed path error =>
    "\n❌ Could not load " ++ path.text ++ ": " ++ error ++ "\n   (counted as a draft failure)\n\n"

/-- The state of a run. Calls, events and notices are in the order in which they were made. -/
structure World where
  page : Page
  calls : List Call := []
  events : List SessionEvent := []
  /-- The session steps that fail, every time. -/
  failing : List (SessionStep × Failure) := []
  defaultTimeout : Option Int := none
  files : Tree
  notices : List Notice := []
  picks : Picks
  /-- The outcomes of the spec that is being run, in order. -/
  outcomes : List Outcome := []

end FeatureRun.Run

namespace FeatureRun

/-- A part of a run: it changes the world, and gives a value or fails. -/
abbrev Run (α : Type) := ExceptT Run.Failure (StateM Run.World) α

end FeatureRun

namespace FeatureRun.Run
open FeatureRun.Files

/-- The outcome of a part of a run and the world after it. -/
def outcome {α : Type} (r : Run α) (w : World) : Except Failure α × World :=
  (ExceptT.run r).run w

/-- Prints a notice. The stream that it goes to is taken to accept every text. -/
def say (n : Notice) : Run Unit := modify fun w => { w with notices := w.notices ++ [n] }

/-- Lifts a result. -/
def ofExcept {ε α : Type} (wrap : ε → Failure) : Except ε α → Run α
  | .ok x => pure x
  | .error e => throw (wrap e)

/-- Makes a directory with those above it that are missing. Those that were made before a failure
stay. -/
def haveDirectories (p : Path) : Run Unit := do
  let attempt := (← get).files.haveDirectories p
  modify fun w => { w with files := attempt.tree }
  match attempt.failure? with
  | none => pure ()
  | some e => throw (.file e)

/-- Runs `body` and then `cleanup`, whatever becomes of the body. A failure of the cleanup takes
the place of the body's. -/
def andAlways {α : Type} (body : Run α) (cleanup : Run Unit) : Run α := do
  let result ← tryCatch (Except.ok <$> body) (fun e => pure (Except.error e))
  cleanup
  match result with
  | .ok x => pure x
  | .error e => throw e

/-- Handles the failures that are no interrupt. -/
def rescue {α : Type} (body : Run α) (handle : Failure → Run α) : Run α :=
  tryCatch body fun e => if e.isInterrupt then throw e else handle e

end FeatureRun.Run
