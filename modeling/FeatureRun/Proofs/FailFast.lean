import FeatureRun.Proofs.Scenarios

/-!
Scenarios stop at the first step that fails. The steps before it are performed one after the other,
those behind it leave no trace, and a screenshot of the failure is tried once. Main statement:
`runScenario_failFast`.
-/
namespace FeatureRun.Run
open FeatureRun.Text FeatureRun.Data FeatureRun.Files FeatureRun.Spec FeatureRun.Browser

def takeTurn (ctx : Context) (step : Step) : Run Unit := do
  let payload ← ofExcept .json step.trace
  say (.stepStarted step.name payload)
  perform ctx step

theorem runSteps_cons (ctx : Context) (step : Step) (rest : List Step) :
    runSteps ctx (step :: rest) = (takeTurn ctx step >>= fun _ => runSteps ctx rest) := by
  simp only [runSteps, takeTurn, bind_assoc]

theorem PageWork.takeTurn (ctx : Context) (step : Step) : PageWork (takeTurn ctx step) :=
  .andThen (ofExcept (fun _ => rfl) _) fun _ => .andThen (.say _) fun _ => perform ctx step

/-- Work on the page adds calls to those that were made. -/
private theorem PageWork.adds_calls {α : Type} {r : Run α} (h : PageWork r) (w : World) :
    ∃ calls, (outcome r w).2.calls = w.calls ++ calls := by
  induction h generalizing w with
  | value x => exact ⟨[], (List.append_nil _).symm⟩
  | fail _ => exact ⟨[], (List.append_nil _).symm⟩
  | @andThen _ _ r f _ _ ihr ihf =>
    obtain ⟨first, hfirst⟩ := ihr w
    rw [outcome_bind]
    rcases ho : outcome r w with ⟨e | x, w'⟩ <;> rw [ho] at hfirst
    · exact ⟨first, hfirst⟩
    · obtain ⟨later, hlater⟩ := ihf x w'
      exact ⟨first ++ later, by rw [hlater, hfirst, List.append_assoc]⟩
  | @handle _ r k _ _ hi ihr ihh =>
    obtain ⟨first, hfirst⟩ := ihr w
    rw [outcome_tryCatch]
    rcases ho : outcome r w with ⟨e | x, w'⟩ <;> rw [ho] at hfirst
    · cases he : e.isInterrupt with
      | false =>
        obtain ⟨later, hlater⟩ := ihh e he w'
        exact ⟨first ++ later, by rw [hlater, hfirst, List.append_assoc]⟩
      | true =>
        simp only [hi e he, outcome_throw]
        exact ⟨first, hfirst⟩
    · exact ⟨first, hfirst⟩
  | look _ ih => exact ih w.page w.files w
  | say n => exact ⟨[], (List.append_nil _).symm⟩
  | call c => exact ⟨[c], rfl⟩
  | change _ => exact ⟨[], (List.append_nil _).symm⟩
  | meet op =>
    rw [outcome_meetFault]
    exact ⟨[], (List.append_nil _).symm⟩
  | keep t => exact ⟨[], (List.append_nil _).symm⟩

/-- Steps that were taken one after the other, none of which failed, with the calls that each of
them made. -/
inductive Performed (ctx : Context) : List Step → World → List (List Call) → World → Prop
  | nil (w : World) : Performed ctx [] w [] w
  | cons {step : Step} {rest : List Step} {w w' w'' : World} {made : List Call}
      {later : List (List Call)} :
      outcome (takeTurn ctx step) w = (.ok (), w') → w'.calls = w.calls ++ made →
      Performed ctx rest w' later w'' → Performed ctx (step :: rest) w (made :: later) w''

theorem Performed.calls {ctx : Context} {steps : List Step} {w w' : World}
    {made : List (List Call)} (h : Performed ctx steps w made w') :
    w'.calls = w.calls ++ made.flatten := by
  induction h with
  | nil => exact (List.append_nil _).symm
  | cons _ hmade _ ih => rw [ih, hmade, List.flatten_cons, List.append_assoc]

/-- Steps that were all performed are followed by the others. -/
theorem Performed.runSteps {ctx : Context} {before : List Step} {w v : World}
    {made : List (List Call)} (h : Performed ctx before w made v) (rest : List Step) :
    outcome (runSteps ctx (before ++ rest)) w = outcome (runSteps ctx rest) v := by
  induction h with
  | nil => rfl
  | cons hstep _ _ ih => rw [List.cons_append, runSteps_cons, outcome_bind_ok hstep, ih]

/-- Steps are all performed, or they are performed up to the first that fails. -/
theorem runSteps_cases (ctx : Context) (steps : List Step) (w : World) :
    (∃ made w', Performed ctx steps w made w' ∧ outcome (runSteps ctx steps) w = (.ok (), w')) ∨
    ∃ before step after made v e v', steps = before ++ step :: after ∧
      Performed ctx before w made v ∧ outcome (takeTurn ctx step) v = (.error e, v') ∧
      outcome (runSteps ctx steps) w = (.error e, v') := by
  induction steps generalizing w with
  | nil => exact .inl ⟨[], w, .nil w, rfl⟩
  | cons step rest ih =>
    obtain ⟨calls, hcalls⟩ := (PageWork.takeTurn ctx step).adds_calls w
    rw [runSteps_cons, outcome_bind]
    rcases hr : outcome (takeTurn ctx step) w with ⟨e | _, w'⟩ <;> rw [hr] at hcalls
    · exact .inr ⟨[], step, rest, [], w, e, w', rfl, .nil w, hr, rfl⟩
    · rcases ih w' with ⟨made, last, hall, hend⟩ |
        ⟨before, failing, after, made, v, e, v', rfl, hbefore, hfails, hend⟩
      · exact .inl ⟨calls :: made, last, .cons hr hcalls hall, hend⟩
      · exact .inr ⟨step :: before, failing, after, calls :: made, v, e, v', rfl,
          .cons hr hcalls hbefore, hfails, hend⟩

def notCaptured (shot : Path) (e : Failure) : Notice :=
  .warning ("could not capture failure screenshot " ++ shot.text ++ ": " ++ e.message)

/-- What comes of a failure's screenshot, with the calls and the notices: without a directory no
screenshot is tried, and only one that is taken is given. -/
inductive Captured (shot : Path) (w : World) : Option String → List Call → List Notice → Prop
  | noDirectory {e : Failure} {w' : World} :
      outcome (haveDirectories shot.parent) w = (.error e, w') →
      Captured shot w none [] [notCaptured shot e]
  | failed {e : Failure} {w' w'' : World} :
      outcome (haveDirectories shot.parent) w = (.ok (), w') →
      outcome (screenshot shot) w' = (.error e, w'') →
      Captured shot w none [.screenshot shot true] [notCaptured shot e]
  | taken {w' w'' : World} :
      outcome (haveDirectories shot.parent) w = (.ok (), w') →
      outcome (screenshot shot) w' = (.ok (), w'') →
      Captured shot w (some shot.text) [.screenshot shot true] []

/-- Directories are made without calls and notices. -/
private theorem haveDirectories_log (path : Path) (w : World) :
    (outcome (haveDirectories path) w).2.calls = w.calls ∧
      (outcome (haveDirectories path) w).2.notices = w.notices := by
  rw [outcome_haveDirectories]
  exact ⟨rfl, rfl⟩

/-- A screenshot is one call, also if it fails. -/
private theorem screenshot_log (path : Path) (w : World) :
    (outcome (screenshot path) w).2.calls = w.calls ++ [.screenshot path true] ∧
      (outcome (screenshot path) w).2.notices = w.notices := by
  simp only [screenshot, record, outcome_bind, outcome_modify, outcome_meetFault]
  cases (takeFault (Call.screenshot path true).op w.page.faults).1 with
  | some e => exact ⟨rfl, rfl⟩
  | none =>
    simp only [outcome_get, outcome_ofExcept]
    cases w.files.write path imageContent <;> exact ⟨rfl, rfl⟩

/-- A capture that is not interrupted gives the screenshot exactly if it was taken. -/
theorem captureFailure_captured {shot : Path} {w last : World} {taken : Option String}
    (h : outcome (captureFailure shot) w = (.ok taken, last)) :
    ∃ calls notices, Captured shot w taken calls notices ∧ last.calls = w.calls ++ calls ∧
      last.notices = w.notices ++ notices := by
  rw [captureFailure, outcome_rescue, outcome_bind] at h
  obtain ⟨hdircalls, hdirnotices⟩ := haveDirectories_log shot.parent w
  rcases hdir : outcome (haveDirectories shot.parent) w with ⟨e | _, w'⟩ <;>
    rw [hdir] at h hdircalls hdirnotices
  · dsimp only at h
    split at h
    · cases h
    · cases h
      refine ⟨[], [notCaptured shot e], .noDirectory hdir, ?_, ?_⟩
      · rw [List.append_nil]
        exact hdircalls
      · rw [← hdirnotices]
        rfl
  · obtain ⟨hshotcalls, hshotnotices⟩ := screenshot_log shot w'
    simp only [outcome_bind] at h
    rcases hshot : outcome (screenshot shot) w' with ⟨e | _, w''⟩ <;>
      rw [hshot] at h hshotcalls hshotnotices
    · dsimp only at h
      split at h
      · cases h
      · cases h
        refine ⟨[.screenshot shot true], [notCaptured shot e], .failed hdir hshot, ?_, ?_⟩
        · rw [← hdircalls]
          exact hshotcalls
        · rw [← hdirnotices, ← hshotnotices]
          rfl
    · cases h
      refine ⟨[.screenshot shot true], [], .taken hdir hshot, ?_, ?_⟩
      · rw [← hdircalls]
        exact hshotcalls
      · rw [List.append_nil, ← hdirnotices]
        exact hshotnotices

def started (scenario : Scenario) (w : World) : World :=
  { w with notices := w.notices ++ [.scenarioStarted scenario.name] }

/-- A scenario passes if none of its steps fails, and then nothing is captured. Otherwise the first
step that fails decides: the calls are those of the steps up to this one and of at most one capture,
behind which nothing but the outcome is printed, and the error is the step's, whatever becomes of
the capture. -/
theorem runScenario_failFast (ctx : Context) (scenario : Scenario) (shot : Path) (w : World)
    (hp : Calm w.page) :
    (∃ made v last, Performed ctx scenario.steps (started scenario w) made v ∧
      outcome (runScenario ctx scenario shot) w =
        (.ok ⟨scenario.name, true, none, none⟩, last) ∧
      last.calls = w.calls ++ made.flatten ∧ last.notices = v.notices ++ [.scenarioPassed]) ∨
    ∃ before step after made v e v' calls taken captureCalls captureNotices last,
      scenario.steps = before ++ step :: after ∧
      Performed ctx before (started scenario w) made v ∧
      outcome (takeTurn ctx step) v = (.error e, v') ∧ v'.calls = v.calls ++ calls ∧
      Captured shot v' taken captureCalls captureNotices ∧
      outcome (runScenario ctx scenario shot) w =
        (.ok ⟨scenario.name, false, some (if e.message = "" then e.kind else e.message), taken⟩,
          last) ∧
      last.calls = w.calls ++ made.flatten ++ calls ++ captureCalls ∧
      last.notices = v'.notices ++ captureNotices ++ [.scenarioFailed e.report taken] := by
  have hsteps : PageWork (say (.scenarioStarted scenario.name) >>= fun _ =>
      runSteps ctx scenario.steps) := .andThen (.say _) fun _ => .runSteps ctx _
  obtain ⟨hi, hcalm⟩ := hsteps.calm hp
  rw [outcome_runScenario]
  rw [outcome_bind_ok (outcome_say _ _), ← started] at hi hcalm ⊢
  rcases runSteps_cases ctx scenario.steps (started scenario w) with ⟨made, v, hall, hend⟩ |
    ⟨before, step, after, made, v, e, v', hsplit, hbefore, hfails, hend⟩
  · rw [hend]
    exact .inl ⟨made, v, _, hall, rfl, hall.calls, rfl⟩
  · rw [hend] at hi hcalm ⊢
    obtain ⟨calls, hcalls⟩ := (PageWork.takeTurn ctx step).adds_calls v
    rw [hfails] at hcalls
    have hordinary : e.isInterrupt = false := hi
    obtain ⟨hquiet, _⟩ := (PageWork.captureFailure shot).calm hcalm
    dsimp only
    rw [hordinary]
    rcases hc : outcome (captureFailure shot) v' with ⟨e' | taken, v''⟩
    · -- only an interrupt ends a capture, and there is none
      rw [hc, interrupted, captureFailure_error hc] at hquiet
      cases hquiet
    · obtain ⟨captureCalls, captureNotices, hcaptured, hccalls, hcnotices⟩ :=
        captureFailure_captured hc
      refine .inr ⟨before, step, after, made, v, e, v', calls, taken, captureCalls,
        captureNotices, _, hsplit, hbefore, hfails, hcalls, hcaptured, rfl, ?_, ?_⟩
      · have hstart : (started scenario w).calls = w.calls := rfl
        rw [← hstart, ← hbefore.calls, ← hcalls]
        exact hccalls
      · rw [← hcnotices]
        rfl

def cartWorld : World where
  page := { elements := [{ how := "text", target := "Cart" }] }
  files := ⟨[], []⟩
  picks := ⟨[0], 0⟩

def payScenario : Scenario where
  name := "Pay"
  steps := [.known (.clickText "Cart"), .known (.clickText "Pay"), .known (.clickText "Leave")]

def payAttempt : Run Outcome :=
  runScenario { screenshots := Path.ofString "shots" } payScenario (Path.ofString "shots/pay.png")

theorem runScenario_failFast_pay :
    ∃ before step after e v v' taken last,
      payScenario.steps = before ++ step :: after ∧
      outcome (takeTurn { screenshots := Path.ofString "shots" } step) v = (.error e, v') ∧
      outcome payAttempt cartWorld =
        (.ok ⟨"Pay", false, some (if e.message = "" then e.kind else e.message), taken⟩, last) ∧
      last.calls.length = 3 := by
  have hp : Calm cartWorld.page := by
    intro e he
    cases he
  have hfailed : (outcome payAttempt cartWorld).1.toOption.map Outcome.passed = some false := by
    decide +kernel
  have hcalls : (outcome payAttempt cartWorld).2.calls.length = 3 := by decide +kernel
  rcases runScenario_failFast { screenshots := Path.ofString "shots" } payScenario
      (Path.ofString "shots/pay.png") cartWorld hp with ⟨_, _, _, _, hpass, _⟩ |
    ⟨before, step, after, _, v, e, v', _, taken, _, _, last, hsplit, _, hfails, _, _, hend, _⟩
  · rw [payAttempt, hpass] at hfailed
    cases hfailed
  · rw [payAttempt, hend] at hcalls
    exact ⟨before, step, after, e, v, v', taken, last, hsplit, hfails, hend, hcalls⟩

end FeatureRun.Run
