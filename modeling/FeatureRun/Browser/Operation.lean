import FeatureRun.Run.World

/-!
Operations on the page. Each one first records its call, then meets the fault set for it, and only
then acts.
-/
namespace FeatureRun.Browser
open FeatureRun.Data FeatureRun.Files FeatureRun.Run

/-- Meets the next fault of an operation. -/
def meetFault (op : PageOp) : Run Unit := do
  let w ← get
  let (failure?, faults) := takeFault op w.page.faults
  set { w with page := { w.page with faults := faults } }
  match failure? with
  | some e => throw e
  | none => pure ()

/-- Records a call and acts. -/
def record {α : Type} (c : Call) (act : Run α) : Run α := do
  modify fun w => { w with calls := w.calls ++ [c] }
  meetFault c.op
  act

def changePage (f : Page → Page) : Run Unit := modify fun w => { w with page := f w.page }

/-- The element that a locator picks, if it is visible. -/
def seen (l : Locator) (timeout : Value) : Run Element := do
  match ((← get).page.first? l).filter (·.visible) with
  | some e => pure e
  | none => throw (timeoutError timeout ("waiting for " ++ l.text))

def click (l : Locator) (timeout : Value) : Run Unit :=
  record (.click l timeout) do
    let e ← seen l timeout
    changePage fun p => e.onClick.foldl Page.apply p

def hover (l : Locator) (timeout : Value) : Run Unit :=
  record (.hover l timeout) do
    let _ ← seen l timeout

def fill (l : Locator) (value : String) (timeout : Value) : Run Unit :=
  record (.fill l value timeout) do
    let _ ← seen l timeout
    changePage fun p => p.update l fun e => { e with value := value }

def check (l : Locator) (timeout : Value) : Run Unit :=
  record (.check l timeout) do
    let _ ← seen l timeout
    changePage fun p => p.update l fun e => { e with checked := true }

def uncheck (l : Locator) (timeout : Value) : Run Unit :=
  record (.uncheck l timeout) do
    let _ ← seen l timeout
    changePage fun p => p.update l fun e => { e with checked := false }

def selectOption (l : Locator) (option : String) (timeout : Value) : Run Unit :=
  record (.selectOption l option timeout) do
    let e ← seen l timeout
    if e.options.contains option then
      changePage fun p => p.update l fun e => { e with value := option }
    else throw (timeoutError timeout ("no option " ++ option))

def isEnabled (l : Locator) (timeout : Value) : Run Bool :=
  record (.isEnabled l timeout) do
    let e ← seen l timeout
    pure e.enabled

/-- Whether the page shows what is wanted at a locator. -/
def Page.meets (p : Page) (l : Locator) (wanted : Visibility) : Bool :=
  p.shows l == (wanted == .visible)

def waitFor (l : Locator) (wanted : Visibility) (timeout : Value) : Run Unit :=
  record (.waitFor l wanted timeout) do
    if (← get).page.meets l wanted then pure ()
    else throw (timeoutError timeout ("waiting for " ++ l.text ++ " to be " ++ wanted.name))

def press (key : String) : Run Unit :=
  record (.press key) do
    if (← get).page.keys.contains key then pure ()
    else throw (.browser ⟨false, "Unknown key: \"" ++ key ++ "\""⟩)

def goto (url : String) (timeout : Value) : Run Unit :=
  record (.goto url "domcontentloaded" timeout) do
    if (← get).page.badUrls.contains url then
      throw (.browser
        ⟨false, "net::ERR_NAME_NOT_RESOLVED at " ++ url ++ "\nCall log: navigating"⟩)
    else changePage fun p => { p with url := url }

def waitForTimeout (milliseconds : Value) : Run Unit :=
  record (.waitForTimeout milliseconds) (pure ())

/-- The first bytes of an image file. -/
def imageContent : List UInt8 := [0x89, 0x50, 0x4E, 0x47]

/-- Takes a picture of the whole page. -/
def screenshot (path : Path) : Run Unit :=
  record (.screenshot path true) do
    let files ← ofExcept .file ((← get).files.write path imageContent)
    modify fun w => { w with files := files }

/-- The address that the page shows. -/
def currentUrl : Run String := do
  meetFault .url
  pure (← get).page.url

end FeatureRun.Browser
