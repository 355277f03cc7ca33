import FeatureRun.Run.Options
import FeatureRun.Run.World

/-!
Browser sessions. What has been acquired is released in reverse order, also when a later step or a
release fails; the failure that comes last is the one that is reported.
-/
namespace FeatureRun.Browser
open FeatureRun.Text FeatureRun.Data FeatureRun.Run

/-- Takes a session step; it is noted before it fails. -/
def takeStep (e : SessionEvent) : Run Unit := do
  modify fun w => { w with events := w.events ++ [e] }
  match (← get).failing.lookup e.step with
  | some failure => throw failure
  | none => pure ()

/-- Runs `cleanup` if the body fails, and fails then. A failure of the cleanup takes the place of
the body's. -/
def undoing {α : Type} (cleanup : Run Unit) (body : Run α) : Run α :=
  tryCatch body fun e => do
    cleanup
    throw e

/-- Bytes in small letters and without the blanks at their ends. -/
def plainBytes (bs : List UInt8) : List UInt8 :=
  let isBlankByte (b : UInt8) : Bool := b == 0x20 || (0x09 ≤ b && b ≤ 0x0D)
  let lowerByte (b : UInt8) : UInt8 := if 0x41 ≤ b && b ≤ 0x5A then b + 0x20 else b
  ((bs.dropWhile isBlankByte).reverse.dropWhile isBlankByte).reverse.map lowerByte

/-- The engine that the options ask for. Bytes are no name; what is neither text nor bytes cannot be
trimmed. -/
def chooseEngine (browser : Value) : Run BrowserEngine :=
  match if browser.isTruthy then browser else .text "chromium" with
  | .text s =>
    let name := lower (strip (asString s))
    match BrowserEngine.named? name with
    | some engine => pure engine
    | none => throw (.engine (.unsupported (quoted name)))
  | .bytes bs => throw (.engine (.unsupported (quotedBytes (plainBytes bs))))
  | _ => throw .notSuch

/-- Opens a window with a page in a browser that runs. -/
def openPage (o : Options) : Run Unit := do
  let window ← ofExcept .cast (windowSize o.viewport)
  takeStep (.newContext window)
  takeStep .newPage
  match ← ofExcept .cast (positiveMilliseconds o.timeout) with
  | some n => modify fun w => { w with defaultTimeout := some n }
  | none => pure ()

/-- Launches a browser with a page. -/
def launchBrowser (o : Options) : Run Unit := do
  let engine ← chooseEngine o.browser
  let slowMotion ← ofExcept .cast (positiveMilliseconds o.slowMotion)
  takeStep (.launch engine o.headless slowMotion)
  undoing (takeStep .closeBrowser) (openPage o)

/-- Opens a session: engine, window, page. -/
def openSession (o : Options) : Run Unit := do
  takeStep .start
  undoing (takeStep .stop) (launchBrowser o)

def closeSession : Run Unit :=
  andAlways (takeStep .closeContext) (andAlways (takeStep .closeBrowser) (takeStep .stop))

/-- Reports a failure of the browser as a fault of the engine, under the browser's name. -/
def asEngineFault {α : Type} (o : Options) (fault : String → BrowserError → EngineError)
    (body : Run α) : Run α :=
  tryCatch body fun e =>
    match e with
    | .browser b => do
      let name ← ofExcept .conversion o.browser.display
      throw (.engine (fault name b))
    | e => throw e

/-- Runs the body in a session of its own, which is closed whatever becomes of the body. -/
def withSession {α : Type} (o : Options) (body : Run α) : Run α := do
  asEngineFault o .launch (openSession o)
  andAlways body (asEngineFault o .close closeSession)

end FeatureRun.Browser
