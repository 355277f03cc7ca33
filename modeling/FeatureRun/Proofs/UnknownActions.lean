import FeatureRun.Proofs.FailFast
import FeatureRun.Proofs.StepGrammar
import FeatureRun.Proofs.TraceLines

/-!
Steps of unknown actions. Such a step is read with whatever stands under its key, and it fails its
scenario without a call on the page. The failure names the action exactly if that value can be
announced. Main statement: `runScenario_unknown`.
-/
namespace FeatureRun.Run
open FeatureRun.Text FeatureRun.Number FeatureRun.Data FeatureRun.Files FeatureRun.Spec
open FeatureRun.Browser

/-- The text starts in another way than the report of an unknown action. -/
def StartsOtherwise (s : String) : Prop := ∃ c ∈ s.toList.head?, c ≠ 'U'

namespace StartsOtherwise

theorem append {a : String} (h : StartsOtherwise a) (b : String) : StartsOtherwise (a ++ b) := by
  obtain ⟨c, hc, hne⟩ := h
  refine ⟨c, ?_, hne⟩
  rw [String.toList_append, List.head?_append, hc]
  rfl

theorem ne_empty {s : String} (h : StartsOtherwise s) : s ≠ "" := by
  rintro rfl
  obtain ⟨c, hc, _⟩ := h
  cases hc

private theorem ne_unknown {s : String} (h : StartsOtherwise s) (action : String) :
    s ≠ "Unknown action: " ++ action := by
  rintro rfl
  obtain ⟨c, hc, hne⟩ := h
  rw [String.toList_append] at hc
  cases hc
  exact hne rfl

theorem conversion (e : ConversionError) : StartsOtherwise e.message := by
  cases e with
  | badInteger base shown =>
    have h : StartsOtherwise "invalid literal for int() with base " := ⟨'i', rfl, by decide⟩
    exact ((h.append _).append _).append _
  | badReal shown =>
    have h : StartsOtherwise "could not convert string to float: " := ⟨'c', rfl, by decide⟩
    exact h.append _
  | tooManyDigits found =>
    have h : StartsOtherwise "Exceeds the limit (4300 digits) for integer string conversion" :=
      ⟨'E', rfl, by decide⟩
    exact (h.append _).append _
  | integerTooLarge => exact ⟨'i', rfl, by decide⟩
  | tooDeep => exact ⟨'m', rfl, by decide⟩
  | infiniteInteger | nanInteger => exact ⟨'c', rfl, by decide⟩

/-- No failure to write a value is reported as that of an unknown action. -/
theorem json (e : JsonError) : StartsOtherwise e.message := by
  cases e with
  | badKey kind =>
    have h : StartsOtherwise "keys must be str, int, float, bool or None, not " :=
      ⟨'k', rfl, by decide⟩
    exact h.append _
  | circular => exact ⟨'C', rfl, by decide⟩
  | tooDeep => exact ⟨'m', rfl, by decide⟩
  | conversion e => exact conversion e

end StartsOtherwise

private theorem unknown_report (action : String) :
    (Failure.unknownAction action).report = "Unknown action: " ++ action := by
  have hne : "Unknown action: " ++ action ≠ "" := by
    intro h
    have hlist := congrArg String.toList h
    rw [String.toList_append] at hlist
    cases hlist
  exact if_neg hne

/-- An unknown action fails its step without a call, under its name exactly if what stands under it
can be written. -/
theorem takeTurn_unknown (ctx : Context) (action : String) (payload : Value) (w : World) :
    ∃ e w', outcome (takeTurn ctx (.unknown action payload)) w = (.error e, w') ∧
      e.isInterrupt = false ∧ w'.calls = w.calls ∧
      (e.report = "Unknown action: " ++ action ↔ payload.Writable [] depthLimit) := by
  have htrace : (∃ line, (Step.unknown action payload).trace = .ok line) ↔
      payload.Writable [] depthLimit :=
    Step.trace_ok_iff
  rw [takeTurn]
  cases hline : (Step.unknown action payload).trace with
  | ok line =>
    exact ⟨.unknownAction action, _, rfl, rfl, rfl,
      iff_of_true (unknown_report action) (htrace.mp ⟨line, hline⟩)⟩
  | error e =>
    have hreport : (Failure.json e).report = e.message := if_neg (StartsOtherwise.json e).ne_empty
    refine ⟨.json e, w, rfl, rfl, rfl, iff_of_false ?_ fun h => ?_⟩
    · rw [hreport]
      exact (StartsOtherwise.json e).ne_unknown action
    · obtain ⟨line, hok⟩ := htrace.mpr h
      rw [hline] at hok
      cases hok

/-- A mapping of one key that names no action is read as a step of that action, with the value as it
is. A scenario whose steps before this one are performed fails at it, and the step makes no call. The
error names the action exactly if the value can be written: no integer in it is too long, no key is
other than plain, no container is inside itself, and not too many values are one inside the other. -/
theorem runScenario_unknown {raw key payload : Value} {name : String}
    (hentry : raw.entries? = some [(key, payload)]) (hname : key.display = .ok name)
    (hunknown : ∀ a : Action, a.name ≠ strip name) :
    Step.parse raw = .ok (.unknown (strip name) payload) ∧
      ∀ ctx scenario before after w made v shot,
        scenario.steps = before ++ .unknown (strip name) payload :: after →
        Performed ctx before (started scenario w) made v →
        ∃ e v', outcome (takeTurn ctx (.unknown (strip name) payload)) v = (.error e, v') ∧
          v'.calls = v.calls ∧
          (e.report = "Unknown action: " ++ strip name ↔ payload.Writable [] depthLimit) ∧
          (∀ x last, outcome (runScenario ctx scenario shot) w = (.ok x, last) →
            ∃ taken calls notices, Captured shot v' taken calls notices ∧
              x = ⟨scenario.name, false, some e.report, taken⟩ ∧ last.calls = v.calls ++ calls) ∧
          (Calm w.page → ∃ x last, outcome (runScenario ctx scenario shot) w = (.ok x, last)) := by
  have hnone : Action.named? (strip name) = none := by
    cases ha : Action.named? (strip name) with
    | none => rfl
    | some a => exact absurd (Action.name_of_named? ha) (hunknown a)
  refine ⟨step_ok_iff.mpr ⟨key, payload, name, hentry, hname, .inl ⟨hnone, rfl⟩⟩, ?_⟩
  intro ctx scenario before after w made v shot hsteps hbefore
  obtain ⟨e, v', hturn, hordinary, hcalls, hreport⟩ :=
    takeTurn_unknown ctx (strip name) payload v
  have hfails : outcome (runSteps ctx scenario.steps) (started scenario w) = (.error e, v') := by
    rw [hsteps, hbefore.runSteps, runSteps_cons, outcome_bind_error hturn]
  refine ⟨e, v', hturn, hcalls, hreport, fun x last hx => ?_, fun hp => ?_⟩
  · rw [outcome_runScenario, outcome_bind_ok (outcome_say _ _), ← started, hfails] at hx
    simp only [hordinary, Bool.false_eq_true, if_false] at hx
    rcases hc : outcome (captureFailure shot) v' with ⟨e' | taken, v''⟩ <;> rw [hc] at hx
    · cases hx
    · cases hx
      obtain ⟨calls, notices, hcaptured, hcaptureCalls, _⟩ := captureFailure_captured hc
      exact ⟨taken, calls, notices, hcaptured, rfl, hcaptureCalls.trans (by rw [hcalls])⟩
  · obtain ⟨hquiet, _⟩ := (PageWork.runScenario ctx scenario shot).calm hp
    rcases ho : outcome (runScenario ctx scenario shot) w with ⟨e' | x, last⟩
    · rw [ho, interrupted, runScenario_error ho] at hquiet
      cases hquiet
    · exact ⟨x, last, rfl⟩

def hopScenario (payload : Value) : Scenario where
  name := "Hop"
  steps := [.known (.clickText "Cart"), .unknown "hop" payload]

/-- An unknown action is named although its payload is a list in a mapping. -/
theorem runScenario_unknown_hop :
    Step.parse (.map [(.text " hop ", .map [(.int 1, .list [.null, .bool true])])]) =
        .ok (.unknown "hop" (.map [(.int 1, .list [.null, .bool true])])) ∧
      ∃ x last, outcome (runScenario { screenshots := Path.ofString "shots" }
          (hopScenario (.map [(.int 1, .list [.null, .bool true])]))
          (Path.ofString "shots/hop.png")) cartWorld = (.ok x, last) ∧
        x.error = some "Unknown action: hop" := by
  have hp : Calm cartWorld.page := by
    intro e he
    cases he
  have hstrip : strip (asString " hop ") = "hop" := by decide
  have hwritable : (Value.map [(.int 1, .list [.null, .bool true])]).Writable [] depthLimit := by
    have hone : isLong 1 = false := isLong_of_lt (k := 1) (by decide) (by decide)
    refine .map ?_ ?_ <;> simp only [List.forall_mem_singleton]
    · exact .int hone
    · exact .list (List.forall_mem_cons.mpr ⟨.null, List.forall_mem_singleton.mpr (.bool true)⟩)
  have hentry : (Value.map [(.text " hop ", .map [(.int 1, .list [.null, .bool true])])]).entries? =
      some [(.text " hop ", .map [(.int 1, .list [.null, .bool true])])] := rfl
  have hname : (Value.text " hop ").display = .ok (asString " hop ") := rfl
  have hunknown : ∀ a : Action, a.name ≠ strip (asString " hop ") := by
    have hall : ∀ a ∈ Action.all, a.name ≠ "hop" := by decide
    rw [hstrip]
    exact fun a => hall a a.mem_all
  obtain ⟨hread, hscenario⟩ := runScenario_unknown hentry hname hunknown
  rw [hstrip] at hread hscenario
  obtain ⟨e, v', _, _, hreport, hx, hends⟩ := hscenario { screenshots := Path.ofString "shots" }
    (hopScenario _) [.known (.clickText "Cart")] [] cartWorld _ _ (Path.ofString "shots/hop.png") rfl
    (.cons rfl rfl (.nil _))
  obtain ⟨x, last, hend⟩ := hends hp
  obtain ⟨taken, _, _, _, rfl, _⟩ := hx x last hend
  exact ⟨hread, _, last, hend, congrArg some (hreport.mpr hwritable)⟩

/-- An unknown action whose payload has a date for a key is not named. -/
theorem unknownAction_unnamed :
    Step.parse (.map [(.text "hop", .map [(.date ⟨2024, 1, 2⟩, .int 1)])]) =
        .ok (.unknown "hop" (.map [(.date ⟨2024, 1, 2⟩, .int 1)])) ∧
      ∃ x last, outcome (runScenario { screenshots := Path.ofString "shots" }
          (hopScenario (.map [(.date ⟨2024, 1, 2⟩, .int 1)])) (Path.ofString "shots/hop.png"))
          cartWorld = (.ok x, last) ∧
        x.error = some "keys must be str, int, float, bool or None, not datetime.date" := by
  refine ⟨rfl, _, _, rfl, ?_⟩
  decide +kernel

end FeatureRun.Run
