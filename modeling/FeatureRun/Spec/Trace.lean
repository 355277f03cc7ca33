import FeatureRun.Data.Json
import FeatureRun.Spec.Step

/-!
The payload of a step as a value, and as the line of JSON under which the step is announced.
-/
namespace FeatureRun.Spec
open FeatureRun.Number FeatureRun.Data

/-- A record as a mapping of its fields. -/
def recordValue (fields : List (String × Value)) : Value :=
  .map (fields.map fun f => (.text f.1, f.2))

/-- What an instruction holds; a timeout that is not given is left out. -/
def Instruction.payload : Instruction → Value
  | .text _ s => .text s
  | .await _ s none => recordValue [("text", .text s)]
  | .await _ s (some t) => recordValue [("text", .text s), ("timeout", .int t)]
  | .fill s v => recordValue [("selector", .text s), ("value", .text v)]
  | .fillField l v => recordValue [("label", .text l), ("value", .text v)]
  | .select l o => recordValue [("label", .text l), ("option", .text o)]
  | .clickText s => .text s
  | .clickSelector s => recordValue [("selector", .text s)]
  | .wait x => .real x

def Step.payload : Step → Value
  | .known i => i.payload
  | .unknown _ v => v

/-- A number without a fraction as an integer. -/
def wholeNumber (v : Value) : Value :=
  match v with
  | .real x => if x.isInteger then .int (x.truncate?.getD 0) else v
  | v => v

/-- The payload on one line of JSON. -/
def Step.trace (s : Step) : Except JsonError String := (wholeNumber s.payload).json

end FeatureRun.Spec
