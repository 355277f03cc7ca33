import FeatureRun.Browser.Session
import FeatureRun.Run.Perform
import FeatureRun.Yaml.Document

/-!
Runs of scenarios, specs and lists of spec files. A failure in a scenario is its outcome; a fault of
the engine is the outcome of all scenarios that have not been run; only a file that gives no spec is
passed over.
-/
namespace FeatureRun.Run
open FeatureRun.Text FeatureRun.Number FeatureRun.Data FeatureRun.Files FeatureRun.Spec
open FeatureRun.Browser

/-- Prints and performs the steps, up to the first that fails. -/
def runSteps (ctx : Context) : List Step → Run Unit
  | [] => pure ()
  | step :: rest => do
    let payload ← ofExcept .json step.trace
    say (.stepStarted step.name payload)
    perform ctx step
    runSteps ctx rest

/-- Takes the screenshot of a failure. If that fails too, there is a warning and no screenshot. -/
def captureFailure (path : Path) : Run (Option String) :=
  rescue
    (do
      haveDirectories path.parent
      screenshot path
      pure (some path.text))
    fun e => do
      say (.warning ("could not capture failure screenshot " ++ path.text ++ ": " ++ e.message))
      pure none

/-- Runs a scenario. Every failure but an interrupt becomes its outcome. -/
def runScenario (ctx : Context) (scenario : Scenario) (failureShot : Path) : Run Outcome := do
  say (.scenarioStarted scenario.name)
  rescue
    (do
      runSteps ctx scenario.steps
      say .scenarioPassed
      pure { name := scenario.name, passed := true })
    fun e => do
      let shot ← captureFailure failureShot
      say (.scenarioFailed e.report shot)
      pure { name := scenario.name, passed := false, error := some e.report, screenshot := shot }

/-- Runs the scenarios in order, each with a screenshot path of its own, and keeps their
outcomes. -/
def runScenarios (ctx : Context) (spec : Path) (dirname : String) :
    List Path → List Scenario → Run Unit
  | _, [] => pure ()
  | taken, scenario :: rest => do
    match uniquePath? taken (failurePath spec scenario.name dirname) with
    | none => throw (.noName (failurePath spec scenario.name dirname))
    | some shot => do
      let outcome ← runScenario ctx scenario shot
      modify fun w => { w with outcomes := w.outcomes ++ [outcome] }
      runScenarios ctx spec dirname (shot :: taken) rest

/-- Uses up picks for a token. -/
def drawToken (n : Nat) : Run String := do
  let (token, picks) := (← get).picks.token n
  modify fun w => { w with picks := picks }
  pure (String.ofList token)

/-- The variables of a spec: a random token, and then those that the spec declares. -/
def specVariables (spec : Spec) : Run Variables := do
  let token ← drawToken tokenLength
  pure (Variables.resolve (.single "RAND" token) spec.vars.bindings)

/-- Handles the faults of the engine. -/
def onEngineFault (body : Run Unit) (handle : EngineError → Run Unit) : Run Unit :=
  tryCatch body fun e =>
    match e with
    | .engine fault => handle fault
    | e => throw e

/-- The outcome of a scenario that was not run. -/
def notRun (error : String) (scenario : Scenario) : Outcome :=
  { name := scenario.name, passed := false, error := some error }

/-- Runs the scenarios of a spec in one browser session. -/
def runSpec (spec : Spec) (path : Path) (options : Options) : Run SpecResult := do
  say (.specStarted spec.feature spec.status path)
  let ctx : Context :=
    { screenshots := screenshotDirectory path options.screenshotsDirname
      baseUrl := (spec.baseUrl.filter (· != "")).or options.baseUrl
      timeout := options.timeout
      vars := ← specVariables spec }
  modify fun w => { w with outcomes := [] }
  onEngineFault
    (withSession options (runScenarios ctx path options.screenshotsDirname [] spec.scenarios))
    fun fault => do
      say (.warning fault.message)
      modify fun w =>
        { w with outcomes := w.outcomes ++
            (spec.scenarios.drop w.outcomes.length).map (notRun fault.message) }
  let result := SpecResult.ofOutcomes spec.feature spec.status (← get).outcomes
  say (.specFinished result.passed result.failed)
  pure result

/-- Reads a document from a file. Only a file that cannot be found, read, decoded or parsed is
refused as such. -/
def loadDocument (files : Tree) (path : Path) : Except Failure Value :=
  match files.read path with
  | .error (.file ⟨.missing, _⟩) => .error (.load (.missing path))
  | .error (.file e) => .error (.load (.unreadable path e))
  | .error .nullByte => .error (.file .nullByte)
  | .ok content =>
    match decodeUtf8 content with
    | .error fault => .error (.load (.notUtf8 path fault))
    | .ok s => (Yaml.readDocument (unifyLineEnds s)).mapError (Failure.ofYaml path)

/-- Loads a spec from a file. -/
def loadSpec (files : Tree) (path : Path) : Except Failure Spec := do
  let document ← loadDocument files path
  (Spec.parse document).mapError Failure.ofSpec

/-- Loads and runs one spec. -/
def runSpecFile (path : Path) (options : Options) : Run SpecResult := do
  let spec ← ofExcept id (loadSpec (← get).files path)
  runSpec spec path options

/-- Runs one spec file and adds its result. A file that gives no spec counts as a load failure. -/
def addSpecFile (options : Options) (summary : Summary) (path : Path) : Run Summary :=
  tryCatch (do pure (summary.add (← runSpecFile path options))) fun e =>
    match e with
    | .load error => do
      say (.loadFailed path error.message)
      pure summary.addLoadFailure
    | e => throw e

/-- Runs spec files in order, adding to a summary. -/
def runSpecs (options : Options) (summary : Summary) : List Path → Run Summary
  | [] => pure summary
  | path :: rest => do runSpecs options (← addSpecFile options summary path) rest

end FeatureRun.Run
