import FeatureRun.Proofs.FailFast
import FeatureRun.Proofs.PageCalls
import FeatureRun.Proofs.StepGrammar

/-!
The shapes of payloads. What reading makes of a value, what variables make of that and what an
action reads have one shape, and all of it can be announced but for a timeout of too many digits.
Main statement: `parse_shapes`.
-/
namespace FeatureRun.Spec
open FeatureRun.Text FeatureRun.Number FeatureRun.Data

/-- The shape in which an action reads its payload: a text, a record of texts, which for a wait on a
text may have a positive timeout, or a number that is not below zero. -/
inductive Reads : Action → Value → Prop
  | text (a : TextAction) (s : String) : Reads (.text a) (.text s)
  | clickText (s : String) : Reads .click (.text s)
  | clickSelector (s : String) : Reads .click (recordValue [("selector", .text s)])
  | fill (s v : String) :
      Reads (.form .fill) (recordValue [("selector", .text s), ("value", .text v)])
  | fillField (l v : String) :
      Reads (.form .fillField) (recordValue [("label", .text l), ("value", .text v)])
  | select (l o : String) :
      Reads (.form .select) (recordValue [("label", .text l), ("option", .text o)])
  | await (w : TextWait) (s : String) : Reads (.await w) (recordValue [("text", .text s)])
  | awaitFor (w : TextWait) (s : String) {n : Int} : 0 < n →
      Reads (.await w) (recordValue [("text", .text s), ("timeout", .int n)])
  | wait {x : Binary64} : x.ltZero = false → Reads .wait (.real x)

/-- What variables make of a payload: of a record they change the texts among its fields, and a
payload that is neither a record nor a text they leave as it is. -/
def Variables.substitutePayload (vars : Variables) : Value → Value
  | .map fields => .map (fields.map fun f => (f.1, vars.substituteValue f.2))
  | v => vars.substituteValue v

namespace Variables
variable (vars : Variables)

@[simp] theorem substituteValue_text (s : String) :
    vars.substituteValue (.text s) = .text (vars.substitute s) := by
  rw [substituteValue, asString_own]

@[simp] theorem substituteValue_int (n : Int) : vars.substituteValue (.int n) = .int n := rfl

@[simp] theorem substitutePayload_text (s : String) :
    vars.substitutePayload (.text s) = .text (vars.substitute s) := vars.substituteValue_text s

@[simp] theorem substitutePayload_record (fields : List (String × Value)) :
    vars.substitutePayload (recordValue fields) =
      recordValue (fields.map fun f => (f.1, vars.substituteValue f.2)) := by
  simp [substitutePayload, recordValue]

end Variables

/-- Variables keep the shape of what an action reads. -/
theorem Reads.substitute {a : Action} {v : Value} (h : Reads a v) (vars : Variables) :
    Reads a (vars.substitutePayload v) := by
  cases h with
  | text a s => simpa using .text a (vars.substitute s)
  | clickText s => simpa using .clickText (vars.substitute s)
  | clickSelector s => simpa using .clickSelector (vars.substitute s)
  | fill s v => simpa using .fill (vars.substitute s) (vars.substitute v)
  | fillField l v => simpa using .fillField (vars.substitute l) (vars.substitute v)
  | select l o => simpa using .select (vars.substitute l) (vars.substitute o)
  | await w s => simpa using .await w (vars.substitute s)
  | awaitFor w s hn => simpa using .awaitFor w (vars.substitute s) hn
  | wait hx => exact .wait hx

namespace Instruction

/-- Replacing in an instruction is replacing in its payload. -/
theorem payload_substitute (vars : Variables) (i : Instruction) :
    (i.substitute vars).payload = vars.substitutePayload i.payload := by
  cases i with
  | await _ _ t => cases t <;> simp [substitute, payload]
  | wait _ => rfl
  | _ => simp [substitute, payload]

/-- What meets the demands of reading has the shape that its action reads. -/
theorem reads_payload {i : Instruction} (h : i.MeetsDemand) : Reads i.action i.payload := by
  cases i with
  | text a s => exact .text a s
  | await w s t =>
    cases t with
    | none => exact .await w s
    | some n => exact .awaitFor w s (h.2 n rfl)
  | fill s v => exact .fill s v
  | fillField l v => exact .fillField l v
  | select l o => exact .select l o
  | clickText s => exact .clickText s
  | clickSelector s => exact .clickSelector s
  | wait x => exact .wait h

end Instruction

/-- A wait on a text is read with its timeout. -/
theorem parse_timeout (w : TextWait) {s : String} (hs : s ≠ "") {n : Int} (hn : 0 < n) :
    Step.parse (.map [(.text w.name, .map [(.text "text", .text s), (.text "timeout", .int n)])]) =
      .ok (.known (.await w s (some n))) := by
  have hname : Action.named? (strip (asString w.name)) = some (.await w) := by cases w <;> decide
  have htext : HasField [(.text "text", .text s), (.text "timeout", .int n)] "text" GuardedText s :=
    ⟨.text s, rfl, by simpa [asString_own] using FieldText.text s, hs, holdsSurrogate_codePoints _⟩
  refine step_ok_iff.mpr ⟨_, _, asString w.name, rfl, rfl, .inr ⟨.await w, _, hname, ?_, rfl⟩⟩
  refine (instruction_iff_grammar (by nofun)).mpr
    (.awaitRecord w rfl ?_ htext (.positive rfl rfl hn))
  intro e he
  simp only [List.mem_cons, List.not_mem_nil, or_false] at he
  rcases he with rfl | rfl
  · exact ⟨"text", by decide, rfl⟩
  · exact ⟨"timeout", by decide, rfl⟩

end FeatureRun.Spec

namespace FeatureRun.Run
open FeatureRun.Text FeatureRun.Number FeatureRun.Data FeatureRun.Files FeatureRun.Spec
open FeatureRun.Browser
open scoped FeatureRun.CoreInstances

/-- A step that is read has a payload of the shape that its action reads, and so has what is made of
it by variables, which change the texts in it alone. The step is announced unless its timeout is too
long, and otherwise fails there, before it is performed. When it is performed, a failure for lack of
something in a value is one that the page was set to raise. -/
theorem parse_shapes {raw : Value} {i : Instruction} (h : Step.parse raw = .ok (.known i))
    (ctx : Context) :
    Reads i.action i.payload ∧
      (i.substitute ctx.vars).payload = ctx.vars.substitutePayload i.payload ∧
      Reads i.action (i.substitute ctx.vars).payload ∧
      ((∃ line, (Step.known i).trace = .ok line) ↔ ¬ i.Overlong) ∧
      (i.Overlong → ∀ w, outcome (takeTurn ctx (.known i)) w =
        (.error (.json (.conversion (.tooManyDigits none))), w)) ∧
      ∀ w e w', outcome (perform ctx (.known i)) w = (.error e, w') →
        e.kind ∈ ["AttributeError", "TypeError", "KeyError"] →
        e ∈ w.page.faults.map (·.failure) := by
  have hpayload := i.payload_substitute ctx.vars
  have hreads := Instruction.reads_payload (step_meetsDemand h)
  refine ⟨hreads, hpayload, hpayload ▸ hreads.substitute ctx.vars, ?_, fun hlong w => ?_, ?_⟩
  · exact Step.trace_ok_iff.trans i.payload_writable_iff
  · rw [takeTurn, Instruction.trace_overlong hlong]
    rfl
  · intro w e w' he hkind
    exact (Acts.performInstruction ctx _).raised he (e.ofShape_iff.mpr hkind)

def oneAndHalf : Binary64 := .finite false (3 * 2 ^ (51 : Nat)) (-52) (by decide)

/-- A wait for one and a half milliseconds is announced, and no variable changes it. -/
theorem parse_shapes_wait :
    Step.parse (.map [(.text "wait", .real oneAndHalf)]) = .ok (.known (.wait oneAndHalf)) ∧
      (∃ line, (Step.known (.wait oneAndHalf)).trace = .ok line) ∧
      Reads .wait ((Instruction.wait oneAndHalf).substitute (.single "X" "1")).payload := by
  have hread : Step.parse (.map [(.text "wait", .real oneAndHalf)]) =
      .ok (.known (.wait oneAndHalf)) := rfl
  obtain ⟨_, _, hreads, htrace, _⟩ := parse_shapes hread (oneVariable "X" "1")
  exact ⟨hread, htrace.mpr id, hreads⟩

/-- A timeout of 4335 digits. -/
def longTimeout : Int := 16 ^ (3600 : Nat)

theorem longTimeout_long : isLong longTimeout = true := by decide +kernel

theorem longTimeout_pos : 0 < longTimeout := by decide +kernel

def showingWorld (text : String) : World where
  page := { elements := [{ how := "text", target := text }] }
  files := ⟨[], []⟩
  picks := ⟨[0], 0⟩

/-- A step that is read, and that the page would let pass, fails because it cannot be announced. -/
theorem longTimeout_unannounced :
    Step.parse (.map [(.text "assert_visible",
        .map [(.text "text", .text "Hi"), (.text "timeout", .int longTimeout)])]) =
      .ok (.known (.await .assertVisible "Hi" (some longTimeout))) ∧
    (Step.known (.await .assertVisible "Hi" (some longTimeout))).trace =
      .error (.conversion (.tooManyDigits none)) ∧
    (outcome (perform { screenshots := Path.ofString "shots" }
      (.known (.await .assertVisible "Hi" (some longTimeout)))) (showingWorld "Hi")).1 = .ok () ∧
    (outcome (takeTurn { screenshots := Path.ofString "shots" }
      (.known (.await .assertVisible "Hi" (some longTimeout)))) (showingWorld "Hi")).1 =
      .error (.json (.conversion (.tooManyDigits none))) := by
  have htrace := Instruction.trace_overlong (i := .await .assertVisible "Hi" (some longTimeout))
    longTimeout_long
  refine ⟨parse_timeout .assertVisible (by decide) longTimeout_pos, htrace, rfl, ?_⟩
  rw [takeTurn, htrace]
  rfl

end FeatureRun.Run
