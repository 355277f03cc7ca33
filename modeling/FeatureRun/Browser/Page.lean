import FeatureRun.Run.Failure

/-!
A page as a step sees it: elements in document order, locators that pick the first match, the calls
made on the page, and the faults it is set to raise.
-/
namespace FeatureRun.Browser
open FeatureRun.Data FeatureRun.Files FeatureRun.Run

/-- What a click on an element does. -/
inductive Effect where
  | url (address : String)
  | visible (shown : Bool) (how target : String)
  | enabled (on : Bool) (how target : String)
deriving DecidableEq, Repr

/-- An element with the key under which locators find it: by `text`, `label`, `css` or a role. -/
structure Element where
  how : String
  target : String
  visible : Bool := true
  enabled : Bool := true
  checked : Bool := false
  value : String := ""
  options : List String := []
  onClick : List Effect := []
deriving DecidableEq, Repr

def Element.hasKey (how target : String) (e : Element) : Bool := e.how == how && e.target == target

/-- A key, perhaps restricted to visible elements. -/
structure Locator where
  how : String
  target : String
  visibleOnly : Bool := false
deriving DecidableEq, Repr

/-- The locator as the browser reports it. -/
def Locator.text (l : Locator) : String :=
  l.how ++ "=" ++ l.target ++ (if l.visibleOnly then " >> visible" else "")

def Locator.matches (l : Locator) (e : Element) : Bool :=
  e.hasKey l.how l.target && (!l.visibleOnly || e.visible)

/-- The elements that show a text. -/
def Locator.visibleText (s : String) : Locator := ⟨"text", s, true⟩

/-- The operations on which a page can be set to fail. -/
inductive PageOp where
  | click
  | hover
  | fill
  | check
  | uncheck
  | selectOption
  | isEnabled
  | waitFor
  | press
  | goto
  | waitForTimeout
  | screenshot
  | url
deriving DecidableEq, Repr

/-- A fault: from the first call of the operation that is not let through on, as many calls as
`times` says raise the failure; a negative number never runs out. -/
structure PageFault where
  op : PageOp
  failure : Failure
  times : Int := 1
  letThrough : Nat := 0
deriving DecidableEq, Repr

structure Page where
  url : String := "about:blank"
  elements : List Element := []
  badUrls : List String := []
  keys : List String := ["Enter", "Tab", "Escape"]
  faults : List PageFault := []
deriving DecidableEq, Repr

/-- A call on the page with its arguments. Reading the address is no call. -/
inductive Call where
  | click (on : Locator) (timeout : Value)
  | hover (on : Locator) (timeout : Value)
  | fill (on : Locator) (value : String) (timeout : Value)
  | check (on : Locator) (timeout : Value)
  | uncheck (on : Locator) (timeout : Value)
  | selectOption (on : Locator) (option : String) (timeout : Value)
  | isEnabled (on : Locator) (timeout : Value)
  | waitFor (on : Locator) (wanted : Visibility) (timeout : Value)
  | press (key : String)
  | goto (url waitUntil : String) (timeout : Value)
  | waitForTimeout (milliseconds : Value)
  | screenshot (path : Path) (fullPage : Bool)
deriving Repr

def Call.op : Call → PageOp
  | .click _ _ => .click
  | .hover _ _ => .hover
  | .fill _ _ _ => .fill
  | .check _ _ => .check
  | .uncheck _ _ => .uncheck
  | .selectOption _ _ _ => .selectOption
  | .isEnabled _ _ => .isEnabled
  | .waitFor _ _ _ => .waitFor
  | .press _ => .press
  | .goto _ _ _ => .goto
  | .waitForTimeout _ => .waitForTimeout
  | .screenshot _ _ => .screenshot

/-- Takes the next call of an operation from the faults: the failure it meets, if any, and the
faults that are left. -/
def takeFault (op : PageOp) : List PageFault → Option Failure × List PageFault
  | [] => (none, [])
  | f :: fs =>
    if f.op = op && f.times != 0 then
      match f.letThrough with
      | 0 => (some f.failure, { f with times := f.times - 1 } :: fs)
      | n + 1 =>
        let r := takeFault op fs
        (r.1, { f with letThrough := n } :: r.2)
    else
      let r := takeFault op fs
      (r.1, f :: r.2)

namespace Page

/-- The element that a locator picks. -/
def first? (p : Page) (l : Locator) : Option Element := p.elements.find? l.matches

/-- Whether the locator picks an element that is visible. -/
def shows (p : Page) (l : Locator) : Bool := (p.first? l).any (·.visible)

/-- Changes the first element for which the test holds. -/
def changeFirst (test : Element → Bool) (change : Element → Element) : List Element → List Element
  | [] => []
  | e :: es => if test e then change e :: es else e :: changeFirst test change es

/-- Changes the element that a locator picks. -/
def update (p : Page) (l : Locator) (change : Element → Element) : Page :=
  { p with elements := changeFirst l.matches change p.elements }

/-- Changes every element of a key. -/
def updateAll (p : Page) (how target : String) (change : Element → Element) : Page :=
  { p with elements := p.elements.map fun e => if e.hasKey how target then change e else e }

/-- The page after an effect. -/
def apply (p : Page) : Effect → Page
  | .url address => { p with url := address }
  | .visible shown how target => p.updateAll how target fun e => { e with visible := shown }
  | .enabled on how target => p.updateAll how target fun e => { e with enabled := on }

end Page

/-- The report of a wait that took too long. -/
def timeoutError (timeout : Value) (waiting : String) : Failure :=
  match timeout.display with
  | .ok s => .browser ⟨true, "Timeout " ++ s ++ "ms exceeded.\n" ++ waiting⟩
  | .error e => .conversion e

end FeatureRun.Browser
