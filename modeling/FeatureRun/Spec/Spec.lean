import FeatureRun.Spec.Step
import FeatureRun.Spec.Variables

/-!
Specs: a feature with its scenarios, read from a decoded document. The first check that fails
decides the error.
-/
namespace FeatureRun.Spec
open FeatureRun.Text FeatureRun.Number FeatureRun.Data

inductive Status where
  | draft
  | active
deriving DecidableEq, Repr

def Status.name : Status → String
  | .draft => "draft"
  | .active => "active"

/-- The status of a name. -/
def Status.named? (name : String) : Option Status :=
  if name = "draft" then some .draft
  else if name = "active" then some .active
  else none

structure Scenario where
  name : String
  steps : List Step
deriving Repr

end FeatureRun.Spec

namespace FeatureRun
open Spec

/-- A feature with what its scenarios share. -/
structure Spec where
  feature : String
  description : Option String
  status : Status
  baseUrl : Option String
  vars : Variables
  scenarios : List Scenario
deriving Repr

end FeatureRun

namespace FeatureRun.Spec
open FeatureRun.Text FeatureRun.Number FeatureRun.Data

/-- Why a document is no spec. Scenarios and steps are counted from 1. -/
inductive SpecError where
  | notMapping
  | noFeature
  | noScenarios
  | scenariosNotList
  | variablesNotMapping
  | unknownStatus (shown : String)
  | scenarioNotMapping (index : Nat)
  | noName (index : Nat)
  | noSteps (index : Nat) (name : String)
  | step (scenario : String) (index : Nat) (e : StepError)
deriving DecidableEq, Repr

/-- The place of a step as errors name it. -/
def stepPlace (scenario : String) (index : Nat) : String :=
  "Scenario '" ++ scenario ++ "' step " ++ toString index

def SpecError.message : SpecError → String
  | .notMapping => "Spec must be a mapping with 'feature' and 'scenarios'"
  | .noFeature => "Spec missing 'feature'"
  | .noScenarios => "Spec missing 'scenarios'"
  | .scenariosNotList => "'scenarios' must be a list"
  | .variablesNotMapping => "'variables' must be a mapping"
  | .unknownStatus shown => "Unknown status " ++ shown ++ " (expected one of: draft, active)"
  | .scenarioNotMapping i => "Scenario " ++ toString i ++ " must be a mapping"
  | .noName i => "Scenario " ++ toString i ++ " missing 'name'"
  | .noSteps i name => "Scenario " ++ toString i ++ " (" ++ name ++ ") must have a 'steps' list"
  | .step scenario i e => e.message (stepPlace scenario i)

/-- A document is refused, or it holds a value that cannot be converted. The latter is no
refusal. -/
inductive SpecFailure where
  | refused (e : SpecError)
  | conversion (e : ConversionError)
deriving DecidableEq, Repr

/-- The text of a value, on its own. -/
def textOf (v : Value) : Except SpecFailure String := v.display.mapError .conversion

/-- A field that is there and neither nothing nor the empty text. -/
def present? (name : String) (entries : List (Value × Value)) : Option Value :=
  match Value.field? name entries with
  | some .null => none
  | some (.text s) => if s.isEmpty then none else some (.text s)
  | found => found

/-- The status that a value names, in any case and with blanks around it. -/
def Status.ofName (v : Value) : Except SpecFailure Status := do
  match Status.named? (lower (strip (← textOf v))) with
  | some status => .ok status
  | none => .error (.refused (.unknownStatus (← v.shown.mapError .conversion)))

/-- The status of a spec; it is a draft if none is given. -/
def Status.parse (v : Value) : Except SpecFailure Status :=
  match v with
  | .null => .ok .draft
  | v => Status.ofName v

/-- Reads the steps of a scenario, counted on from `index`. -/
def parseSteps (scenario : String) : Nat → List Value → Except SpecFailure (List Step)
  | _, [] => .ok []
  | index, raw :: rest =>
    match Step.parse raw with
    | .ok step => do .ok (step :: (← parseSteps scenario (index + 1) rest))
    | .error (.refused e) => .error (.refused (.step scenario index e))
    | .error (.conversion e) => .error (.conversion e)

/-- Reads the scenario at `index`. -/
def Scenario.parse (index : Nat) (raw : Value) : Except SpecFailure Scenario :=
  match raw.entries? with
  | none => .error (.refused (.scenarioNotMapping index))
  | some entries =>
    match present? "name" entries with
    | none => .error (.refused (.noName index))
    | some v => do
      let name ← textOf v
      match (Value.field? "steps" entries).bind Value.items? with
      | none => .error (.refused (.noSteps index name))
      | some steps => do .ok ⟨name, ← parseSteps name 1 steps⟩

/-- Reads scenarios, counted on from `index`. -/
def parseScenarios : Nat → List Value → Except SpecFailure (List Scenario)
  | _, [] => .ok []
  | index, raw :: rest => do
    let scenario ← Scenario.parse index raw
    .ok (scenario :: (← parseScenarios (index + 1) rest))

/-- The list of scenarios; nothing stands for the empty list. -/
def scenarioItems (v : Value) : Except SpecFailure (List Value) :=
  match v with
  | .null => .ok []
  | v =>
    match v.items? with
    | some xs => .ok xs
    | none => .error (.refused .scenariosNotList)

/-- The entries of the variables; what does not count as true stands for none. -/
def variableEntries (v : Value) : Except SpecFailure (List (Value × Value)) :=
  if v.isTruthy then
    match v.entries? with
    | some es => .ok es
    | none => .error (.refused .variablesNotMapping)
  else .ok []

/-- A field of the document, or nothing. -/
def fieldOr (name : String) (entries : List (Value × Value)) : Value :=
  (Value.field? name entries).getD .null

/-- Reads a description: any value but nothing, as its text. -/
def parseDescription (v : Value) : Except SpecFailure (Option String) :=
  match v with
  | .null => .ok none
  | v => (textOf v).map some

/-- Reads a base address: any value that counts as true, as its text. -/
def parseBaseUrl (v : Value) : Except SpecFailure (Option String) :=
  if v.isTruthy then (textOf v).map some else .ok none

/-- Reads a spec. -/
def parse (raw : Value) : Except SpecFailure Spec :=
  match raw.entries? with
  | none => .error (.refused .notMapping)
  | some entries =>
    match present? "feature" entries, Value.field? "scenarios" entries with
    | none, _ => .error (.refused .noFeature)
    | some _, none => .error (.refused .noScenarios)
    | some feature, some scenarios => do
      let scenarios ← scenarioItems scenarios
      let declared ← variableEntries (fieldOr "variables" entries)
      let feature ← textOf feature
      let description ← parseDescription (fieldOr "description" entries)
      let status ← Status.parse (fieldOr "status" entries)
      let baseUrl ← parseBaseUrl (fieldOr "base_url" entries)
      let vars ← (Variables.ofEntries declared).mapError .conversion
      let scenarios ← parseScenarios 1 scenarios
      .ok { feature, description, status, baseUrl, vars, scenarios }

end FeatureRun.Spec
