/-!
The actions a step can name, grouped by what they take: a text, a text with an optional timeout, a
record of two texts, a number, or a text or selector.
-/
namespace FeatureRun.Spec

/-- Actions that take one text. -/
inductive TextAction where
  | goto
  | clickButton
  | clickLink
  | check
  | uncheck
  | hover
  | press
  | assertUrl
  | assertEnabled
  | assertDisabled
  | screenshot
deriving DecidableEq, Repr

/-- Actions that wait on a text. -/
inductive TextWait where
  | waitFor
  | assertVisible
  | assertHidden
deriving DecidableEq, Repr

/-- Actions that fill a control with a value. -/
inductive FormAction where
  | fill
  | fillField
  | select
deriving DecidableEq, Repr

inductive Action where
  | text (a : TextAction)
  | await (w : TextWait)
  | form (f : FormAction)
  | click
  | wait
deriving DecidableEq, Repr

def TextAction.name : TextAction → String
  | .goto => "goto"
  | .clickButton => "click_button"
  | .clickLink => "click_link"
  | .check => "check"
  | .uncheck => "uncheck"
  | .hover => "hover"
  | .press => "press"
  | .assertUrl => "assert_url"
  | .assertEnabled => "assert_enabled"
  | .assertDisabled => "assert_disabled"
  | .screenshot => "screenshot"

def TextWait.name : TextWait → String
  | .waitFor => "wait_for"
  | .assertVisible => "assert_visible"
  | .assertHidden => "assert_hidden"

def FormAction.name : FormAction → String
  | .fill => "fill"
  | .fillField => "fill_field"
  | .select => "select"

namespace Action

/-- The name of an action in a document. -/
def name : Action → String
  | .text a => a.name
  | .await w => w.name
  | .form f => f.name
  | .click => "click"
  | .wait => "wait"

def all : List Action :=
  [.text .goto, .click, .text .clickButton, .text .clickLink, .form .fill, .form .fillField,
    .form .select, .text .check, .text .uncheck, .text .hover, .text .press, .wait,
    .await .waitFor, .await .assertVisible, .await .assertHidden, .text .assertUrl,
    .text .assertEnabled, .text .assertDisabled, .text .screenshot]

theorem mem_all (a : Action) : a ∈ all := by
  cases a with
  | text a => cases a <;> decide
  | await w => cases w <;> decide
  | form f => cases f <;> decide
  | click => decide
  | wait => decide

/-- The action of a name. -/
def named? (s : String) : Option Action := all.find? fun a => a.name == s

theorem name_of_named? {s : String} {a : Action} (h : named? s = some a) : a.name = s := by
  have := List.find?_some h
  simpa using this

end Action

end FeatureRun.Spec
