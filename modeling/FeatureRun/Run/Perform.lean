import FeatureRun.Browser.Operation
import FeatureRun.Run.Address
import FeatureRun.Run.Screenshot
import FeatureRun.Spec.Trace
import FeatureRun.Text.Replace

/-!
What an instruction does to the page. Failures of the browser are reported with what was being done;
a browser that waited too long for an element says that the element was not found.
-/
namespace FeatureRun.Run
open FeatureRun.Text FeatureRun.Number FeatureRun.Data FeatureRun.Files FeatureRun.Spec
open FeatureRun.Browser

/-- What the instructions of one spec share. -/
structure Context where
  screenshots : Path
  baseUrl : Option String := none
  timeout : Value := .int 7000
  vars : Variables := .empty

/-- Reports failures of the browser while acting on an element. -/
def locating {α : Type} (doing : String) (body : Run α) : Run α :=
  tryCatch body fun e =>
    match e with
    | .browser b => throw (if b.timedOut then .locator doing b else .engine (.during doing b))
    | e => throw e

/-- Reports failures of the browser while it does something as a whole. -/
def driving {α : Type} (doing : String) (body : Run α) : Run α :=
  tryCatch body fun e =>
    match e with
    | .browser b => throw (.engine (.during doing b))
    | e => throw e

/-- The timeouts, in milliseconds, of waits that name none. -/
def assertTimeout : Int := 5000

def waitTimeout : Int := 10000

/-- Expects a text to be shown or not. -/
def assertState (wanted : Visibility) (text : String) (timeout : Option Int) : Run Unit :=
  let ms := timeout.getD assertTimeout
  tryCatch (waitFor (.visibleText text) wanted (.int ms)) fun e =>
    match e with
    | .browser b =>
      if b.timedOut then do
        throw (.assertion (.state wanted text (← ofExcept .conversion (integerText ms))))
      else throw (.engine (.asserting wanted text b))
    | e => throw e

/-- Waits for a text to be shown. -/
def waitForText (text : String) (timeout : Option Int) : Run Unit := do
  let ms := timeout.getD waitTimeout
  let shown ← ofExcept .conversion (integerText ms)
  locating ("wait for " ++ quoted text ++ " (" ++ shown ++ "ms)")
    (waitFor (.visibleText text) .visible (.int ms))

/-- Whether a button is enabled. -/
def buttonEnabled (name : String) (timeout : Value) : Run Bool :=
  locating ("button " ++ quoted name) (isEnabled ⟨"button", name, false⟩ timeout)

/-- Takes a screenshot for a step, in a directory that is made if it is missing. -/
def takeScreenshot (directory : Path) (name : String) : Run Unit := do
  tryCatch (haveDirectories directory) fun e =>
    match e with
    | .file (.file e) => throw (.engine (.directory directory e))
    | e => throw e
  let path := directory.join (screenshotFileName name)
  driving ("screenshot " ++ path.text) (screenshot path)
  say (.screenshotTaken path)

/-- Performs an action that takes a text. -/
def performText (ctx : Context) (action : TextAction) (s : String) : Run Unit :=
  match action with
  | .goto =>
    let url := resolveAddress ctx.baseUrl s
    driving ("goto " ++ url) (goto url ctx.timeout)
  | .clickButton =>
    locating ("click button " ++ quoted s) (click ⟨"button", s, false⟩ ctx.timeout)
  | .clickLink => locating ("click link " ++ quoted s) (click ⟨"link", s, false⟩ ctx.timeout)
  | .check => locating ("check " ++ quoted s) (check ⟨"label", s, false⟩ ctx.timeout)
  | .uncheck => locating ("uncheck " ++ quoted s) (uncheck ⟨"label", s, false⟩ ctx.timeout)
  | .hover => locating ("hover text " ++ quoted s) (hover (.visibleText s) ctx.timeout)
  | .press => driving ("press " ++ quoted s) (press s)
  | .assertUrl => do
    let current ← currentUrl
    if contains s.toList current.toList then pure () else throw (.assertion (.url current s))
  | .assertEnabled => do
    if ← buttonEnabled s ctx.timeout then pure () else throw (.assertion (.enabled s))
  | .assertDisabled => do
    if ← buttonEnabled s ctx.timeout then throw (.assertion (.disabled s)) else pure ()
  | .screenshot => takeScreenshot ctx.screenshots s

/-- Performs an instruction whose placeholders have been replaced. -/
def performInstruction (ctx : Context) : Instruction → Run Unit
  | .text action s => performText ctx action s
  | .await .waitFor s t => waitForText s t
  | .await .assertVisible s t => assertState .visible s t
  | .await .assertHidden s t => assertState .hidden s t
  | .fill s v =>
    locating ("fill selector " ++ quoted s) (fill ⟨"css", s, false⟩ v ctx.timeout)
  | .fillField l v =>
    locating ("fill field labelled " ++ quoted l) (fill ⟨"label", l, false⟩ v ctx.timeout)
  | .select l o =>
    locating ("select " ++ quoted o ++ " in " ++ quoted l)
      (selectOption ⟨"label", l, false⟩ o ctx.timeout)
  | .clickText s => locating ("click text " ++ quoted s) (click (.visibleText s) ctx.timeout)
  | .clickSelector s =>
    locating ("click selector " ++ quoted s) (click ⟨"css", s, false⟩ ctx.timeout)
  | .wait x => driving ("wait " ++ x.text ++ "ms") (waitForTimeout (.real x.atLeastZero))

/-- Performs a step. A step of an unknown action fails. -/
def perform (ctx : Context) : Step → Run Unit
  | .known i => performInstruction ctx (i.substitute ctx.vars)
  | .unknown action _ => throw (.unknownAction action)

end FeatureRun.Run
