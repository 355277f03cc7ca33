import FeatureRun.Spec.Action
import FeatureRun.Spec.Record
import FeatureRun.Text.LowerCase

/-!
Steps: an instruction with what its action takes, or an action that is not known with the value as
it was written. A step is read from a mapping with one key.
-/
namespace FeatureRun.Spec
open FeatureRun.Text FeatureRun.Number FeatureRun.Data

/-- An instruction of a known action. Timeouts are in milliseconds. -/
inductive Instruction where
  | text (action : TextAction) (value : String)
  | await (action : TextWait) (text : String) (timeout : Option Int)
  | fill (selector value : String)
  | fillField (label value : String)
  | select (label option : String)
  | clickText (text : String)
  | clickSelector (selector : String)
  | wait (milliseconds : Binary64)
deriving DecidableEq, Repr

def Instruction.action : Instruction → Action
  | .text a _ => .text a
  | .await w _ _ => .await w
  | .fill _ _ => .form .fill
  | .fillField _ _ => .form .fillField
  | .select _ _ => .form .select
  | .clickText _ => .click
  | .clickSelector _ => .click
  | .wait _ => .wait

inductive Step where
  | known (instruction : Instruction)
  | unknown (action : String) (payload : Value)
deriving Repr

/-- The name under which the step is reported. -/
def Step.name : Step → String
  | .known i => i.action.name
  | .unknown action _ => action

/-- Why an action does not take a value; texts hold the value as shown. -/
inductive PayloadError where
  | notText (shown : String)
  | blankText (shown : String)
  | notMilliseconds (shown : String)
  | notRecord (fields : List String) (shown : String)
  | record (e : RecordError)
  | conversion (e : ConversionError)
deriving DecidableEq, Repr

def PayloadError.message : PayloadError → String
  | .notText shown => "expected text, got " ++ shown
  | .blankText shown => "expected non-empty text, got " ++ shown
  | .notMilliseconds shown => "expected a non-negative number of milliseconds, got " ++ shown
  | .notRecord fields shown =>
    "expected a mapping with keys " ++ Value.bracketed "[" "]" (fields.map quoted) ++ ", got " ++
      shown
  | .record e => e.message
  | .conversion e => e.message

/-- Fails with a value as it is shown. -/
def refuse {α : Type} (v : Value) (error : String → PayloadError) : Except PayloadError α :=
  match v.shown with
  | .ok s => .error (error s)
  | .error e => .error (.conversion e)

/-- A text with something that is not blank, or a number as its text. -/
def textPayload (v : Value) : Except PayloadError (List CodePoint) :=
  match v with
  | .bool _ | .null => refuse v .notText
  | .int n => do .ok (← (integerText n).mapError .conversion)
  | .real x => .ok x.text
  | .text s => if isBlankText (asString s) then refuse v .blankText else .ok s
  | v => refuse v .blankText

/-- Whether a text ends in the unit of milliseconds, in any case. -/
def hasUnit (s : List Char) : Bool := ['m', 's'].isSuffixOf (lowerList s)

/-- The text without its first point is all digit characters. -/
def looksNumeric (s : List Char) : Bool := allDigits (s.eraseP (· == '.'))

/-- What stands for a number of milliseconds: a text that ends in `ms` stands for the number before
it, or for nothing if that is none. -/
def writtenMilliseconds (v : Value) : Except PayloadError Value :=
  match v with
  | .text s =>
    let body := trim (asCharacters s)
    if hasUnit body then
      let digits := trim body.dropLast.dropLast
      if looksNumeric digits then ((readReal digits).mapError .conversion).map .real
      else .ok .null
    else .ok v
  | v => .ok v

/-- A number that is not below zero. An integer may be too large for the range of numbers; this
failure is of another kind than a refusal. -/
def milliseconds (number : Value) : Except PayloadError Binary64 :=
  match number with
  | .int n =>
    if n < 0 then refuse number .notMilliseconds else (realOfInt n).mapError .conversion
  | .real x => if x.ltZero then refuse number .notMilliseconds else .ok x
  | v => refuse v .notMilliseconds

/-- A number of milliseconds: a number, or a text that ends in `ms`. -/
def waitPayload (v : Value) : Except PayloadError Binary64 := do
  milliseconds (← writtenMilliseconds v)

/-- Collects the issues of a record, or builds it from its fields. -/
def recordOf {α : Type} (name : String) (issues : List Issue) (value : Option α) :
    Except PayloadError α :=
  match issues, value with
  | [], some x => .ok x
  | issues, _ => .error (.record ⟨name, issues⟩)

/-- A record of two texts, of which the first must not be empty. -/
def pairPayload (record first second : String) (entries : List (Value × Value)) :
    Except PayloadError (String × String) := do
  let a ← (requiredField entries first nonEmptyText).mapError .conversion
  let b ← (requiredField entries second readText).mapError .conversion
  recordOf record (recordIssues [first, second] entries (issueOf first a ++ issueOf second b))
    (a.toOption.bind fun x => b.toOption.map fun y => (x, y))

/-- A record of one selector. -/
def selectorPayload (entries : List (Value × Value)) : Except PayloadError String := do
  let a ← (requiredField entries "selector" nonEmptyText).mapError .conversion
  recordOf "SelectorTarget" (recordIssues ["selector"] entries (issueOf "selector" a)) a.toOption

/-- A record of a text and perhaps a timeout. -/
def awaitRecord (entries : List (Value × Value)) : Except PayloadError (String × Option Int) := do
  let a ← (requiredField entries "text" nonEmptyText).mapError .conversion
  let b := match Value.field? "timeout" entries with
    | some v => readTimeout v
    | none => .ok none
  recordOf "TextWait"
    (recordIssues ["text", "timeout"] entries (issueOf "text" a ++ issueOf "timeout" b))
    (a.toOption.bind fun x => b.toOption.map fun y => (x, y))

/-- A record where no other form is allowed. -/
def formPayload (record first second : String) (v : Value) :
    Except PayloadError (String × String) :=
  match v.entries? with
  | some entries => pairPayload record first second entries
  | none => refuse v (.notRecord [first, second])

/-- The instruction of an action with the value written under it. -/
def Instruction.parse (action : Action) (v : Value) : Except PayloadError Instruction :=
  match action with
  | .text a => (textPayload v).map fun s => .text a (asString s)
  | .await w =>
    match v.entries? with
    | some entries => (awaitRecord entries).map fun r => .await w r.1 r.2
    | none => do
      -- a bare text is read as the record of that text alone
      let r ← awaitRecord [(.text "text", .text (← textPayload v))]
      .ok (.await w r.1 r.2)
  | .form .fill => (formPayload "SelectorFill" "selector" "value" v).map fun r => .fill r.1 r.2
  | .form .fillField => (formPayload "LabelFill" "label" "value" v).map fun r => .fillField r.1 r.2
  | .form .select => (formPayload "LabelSelect" "label" "option" v).map fun r => .select r.1 r.2
  | .click =>
    match v.entries? with
    | some entries => (selectorPayload entries).map .clickSelector
    | none => (textPayload v).map fun s => .clickText (asString s)
  | .wait => (waitPayload v).map .wait

/-- Why a value is no step. -/
inductive StepError where
  | notMapping (shown : String)
  | keyCount (found : List String)
  | payload (action : Action) (e : PayloadError)
deriving DecidableEq, Repr

/-- The text of the error for a step at `place`. -/
def StepError.message (place : String) : StepError → String
  | .notMapping shown =>
    place ++ " must be a mapping like \x7bclick: Sign In\x7d, got " ++ shown
  | .keyCount found =>
    place ++ " must have exactly one action key (found: " ++
      (if found.isEmpty then "none" else ", ".intercalate found) ++ ")"
  | .payload action e => place ++ " '" ++ action.name ++ "': " ++ e.message

/-- A step is refused, or it holds a value that cannot be converted. The latter is no refusal. -/
inductive StepFailure where
  | refused (e : StepError)
  | conversion (e : ConversionError)
deriving DecidableEq, Repr

/-- A payload that is too large a number or too deep a value is a failure of conversion; all else is
a refusal. -/
def StepFailure.ofPayload (action : Action) (e : PayloadError) : StepFailure :=
  match e with
  | .conversion c => if c.isMalformed then .refused (.payload action e) else .conversion c
  | e => .refused (.payload action e)

/-- The text of the keys that were found. -/
def keyTexts (entries : List (Value × Value)) : Except ConversionError (List String) :=
  entries.mapM fun e => e.1.display

/-- Reads a step. -/
def Step.parse (raw : Value) : Except StepFailure Step :=
  match raw.entries? with
  | none =>
    match raw.shown with
    | .ok s => .error (.refused (.notMapping s))
    | .error e => .error (.conversion e)
  | some [(key, value)] => do
    let action := strip (← key.display.mapError .conversion)
    match Action.named? action with
    | none => .ok (.unknown action value)
    | some a => ((Instruction.parse a value).mapError (.ofPayload a)).map .known
  | some entries =>
    match keyTexts entries with
    | .ok found => .error (.refused (.keyCount found))
    | .error e => .error (.conversion e)

end FeatureRun.Spec
