import FeatureRun.Proofs.Scenarios
import FeatureRun.Proofs.Session

/-!
Runs of specs. With ordinary options and failures a run always gives a result, with one outcome for
each scenario.
-/
namespace FeatureRun.Run
open FeatureRun.Text FeatureRun.Data FeatureRun.Files FeatureRun.Spec FeatureRun.Browser

def variablesIn (spec : Spec) (w : World) : Variables :=
  let token := String.ofList (w.picks.token tokenLength).1
  Variables.resolve (.single "RAND" token) spec.vars.bindings

def contextIn (spec : Spec) (path : Path) (o : Options) (w : World) : Context where
  screenshots := screenshotDirectory path o.screenshotsDirname
  baseUrl := (spec.baseUrl.filter (· != "")).or o.baseUrl
  timeout := o.timeout
  vars := variablesIn spec w

def ready (spec : Spec) (path : Path) (w : World) : World :=
  { w with
    notices := w.notices ++ [.specStarted spec.feature spec.status path]
    picks := (w.picks.token tokenLength).2
    outcomes := [] }

def scenariosOf (spec : Spec) (path : Path) (o : Options) (w : World) : Run Unit :=
  runScenarios (contextIn spec path o w) path o.screenshotsDirname [] spec.scenarios

/-- The world in which the scenarios that were not run have the outcomes that a fault gives
them. -/
def givenUp (spec : Spec) (fault : EngineError) (w : World) : World :=
  { w with
    notices := w.notices ++ [.warning fault.message]
    outcomes := w.outcomes ++
      (spec.scenarios.drop w.outcomes.length).map (notRun fault.message) }

def concluded (spec : Spec) (w : World) : Except Failure SpecResult × World :=
  let result := SpecResult.ofOutcomes spec.feature spec.status w.outcomes
  (.ok result, { w with notices := w.notices ++ [.specFinished result.passed result.failed] })

private theorem concluded_result {spec : Spec} {w : World} {xs : List Outcome}
    (h : w.outcomes = xs) :
    (concluded spec w).1 = .ok (SpecResult.ofOutcomes spec.feature spec.status xs) := by
  rw [concluded, h]

/-- A spec is concluded unless something other than a fault of the engine ends its session. -/
theorem outcome_runSpec (spec : Spec) (path : Path) (o : Options) (w : World) :
    outcome (runSpec spec path o) w =
      match outcome (withSession o (scenariosOf spec path o w)) (ready spec path w) with
      | (.ok _, w') => concluded spec w'
      | (.error (.engine fault), w') => concluded spec (givenUp spec fault w')
      | (.error e, w') => (.error e, w') := by
  have hv : outcome (specVariables spec)
      { w with notices := w.notices ++ [.specStarted spec.feature spec.status path] } =
      (.ok (variablesIn spec w), { ready spec path w with outcomes := w.outcomes }) := rfl
  rw [runSpec, outcome_bind_ok (outcome_say _ _), outcome_bind_ok hv,
    outcome_bind_ok (outcome_modify _ _), outcome_bind, outcome_onEngineFault]
  simp only [scenariosOf, contextIn, ready]
  rcases outcome (withSession o _) _ with ⟨e | _, w'⟩
  · cases e <;> rfl
  · rfl

/-- Options as they are declared: a name for the browser, integers for the times and nothing or two
integers for the viewport. -/
structure Options.Regular (o : Options) : Prop where
  browser : ∃ name, o.browser = .text name
  timeout : ∃ n, o.timeout = .int n
  slowMotion : ∃ n, o.slowMotion = .int n
  viewport : o.viewport = .null ∨
    ∃ width height, o.viewport = .list [.int width, .int height] ∨
      o.viewport = .tuple [.int width, .int height]

def BrowserOnly (failing : Failing) : Prop :=
  ∀ s e, failing.lookup s = some e → ∃ b, e = .browser b

/-- A failure that leaves a session as a fault of the engine. -/
def IsFault (e : Failure) : Prop := (∃ b, e = .browser b) ∨ ∃ fault, e = .engine fault

theorem BrowserOnly.isFault {failing : Failing} (hd : BrowserOnly failing) {s : SessionStep}
    {e : Failure} (h : failing.lookup s = some e) : IsFault e := .inl (hd s e h)

theorem BrowserOnly.stepFailures {failing : Failing} (hd : BrowserOnly failing)
    {events : List SessionEvent} {e : Failure} (h : e ∈ stepFailures failing events) :
    IsFault e := by
  obtain ⟨event, _, he⟩ := List.mem_filterMap.mp h
  exact hd.isFault he

theorem BrowserOnly.overtaken {failing : Failing} (hd : BrowserOnly failing)
    (events : List SessionEvent) {e : Failure} (he : IsFault e) :
    IsFault (overtaken failing events e) := by
  unfold Browser.overtaken
  cases hl : (Browser.stepFailures failing events).getLast? with
  | none => exact he
  | some x => exact hd.stepFailures (List.mem_of_getLast? hl)

namespace Options.Regular
variable {o : Options} {failing : Failing}

theorem milliseconds (n : Int) : ∃ r, positiveMilliseconds (.int n) = .ok r := by
  unfold positiveMilliseconds
  split <;> exact ⟨_, rfl⟩

theorem windowSize (ho : o.Regular) : ∃ size, windowSize o.viewport = .ok size := by
  rcases ho.viewport with h | ⟨width, height, h | h⟩ <;> rw [h] <;> exact ⟨_, rfl⟩

theorem chooseEngine (ho : o.Regular) {e : Failure} {w : World}
    (h : outcome (chooseEngine o.browser) w = (.error e, w)) : IsFault e := by
  obtain ⟨name, hn⟩ := ho.browser
  have ht : ∃ s, (if o.browser.isTruthy then o.browser else .text "chromium") = .text s := by
    rw [hn]
    split <;> exact ⟨_, rfl⟩
  obtain ⟨s, hs⟩ := ht
  unfold Browser.chooseEngine at h
  rw [hs] at h
  dsimp only at h
  split at h <;> cases h
  exact .inr ⟨_, rfl⟩

theorem reported (ho : o.Regular) (fault : String → BrowserError → EngineError) {e : Failure}
    (he : IsFault e) : ∃ x, reported o fault e = .engine x := by
  obtain ⟨name, hn⟩ := ho.browser
  rcases he with ⟨b, rfl⟩ | ⟨x, rfl⟩
  · rw [Browser.reported, hn]
    exact ⟨_, rfl⟩
  · exact ⟨x, rfl⟩

private theorem pageCut (ho : o.Regular) (hd : BrowserOnly failing) {events : List SessionEvent}
    {e : Failure} (h : PageCut failing o events e) : IsFault e := by
  cases h with
  | window hv =>
    obtain ⟨size, hs⟩ := ho.windowSize
    rw [hs] at hv
    cases hv
  | context _ hc => exact hd.isFault hc
  | page _ _ hq => exact hd.isFault hq
  | timeout _ _ _ ht =>
    obtain ⟨n, hn⟩ := ho.timeout
    obtain ⟨r, hr⟩ := milliseconds n
    rw [hn, hr] at ht
    cases ht

private theorem cutShort (ho : o.Regular) (hd : BrowserOnly failing) {events : List SessionEvent}
    {e : Failure} (h : CutShort failing o events e) : IsFault e := by
  cases h with
  | start hs => exact hd.isFault hs
  | launch _ hl =>
    apply hd.overtaken
    cases hl with
    | engine hx => exact ho.chooseEngine hx
    | slowMotion hm =>
      obtain ⟨n, hn⟩ := ho.slowMotion
      obtain ⟨r, hr⟩ := milliseconds n
      rw [hn, hr] at hm
      cases hm
    | launch _ _ hx => exact hd.isFault hx
    | page _ _ _ hp => exact hd.overtaken _ (ho.pageCut hd hp)

end Options.Regular

section Concluded
variable (spec : Spec) (path : Path) {o : Options} {w : World}

/-- If the session of a spec is cut short, no scenario runs, and the fault of the engine is the
error of each. -/
theorem runSpec_cutShort (ho : o.Regular) (hd : BrowserOnly w.failing)
    {events : List SessionEvent} {e : Failure}
    (hs : outcome (openSession o) (ready spec path w) = (.error e, took (ready spec path w) events))
    (hc : CutShort w.failing o events e) :
    ∃ fault, reported o .launch e = .engine fault ∧
      outcome (runSpec spec path o) w =
        concluded spec (givenUp spec fault (took (ready spec path w) events)) := by
  obtain ⟨fault, hf⟩ := ho.reported .launch (ho.cutShort hd hc)
  refine ⟨fault, hf, ?_⟩
  have hl := outcome_asEngineFault o .launch (openSession o) (ready spec path w)
  rw [hs] at hl
  change _ = (Except.error (reported o .launch e), took (ready spec path w) events) at hl
  rw [hf] at hl
  rw [outcome_runSpec, withSession, outcome_bind_error hl]

/-- The outcomes that the scenarios of a spec leave. No session matters to them. -/
def outcomesOf (spec : Spec) (path : Path) (o : Options) (w : World) : List Outcome :=
  (outcome (scenariosOf spec path o w) (ready spec path w)).2.outcomes

private theorem outcomesOf_failing (spec : Spec) (path : Path) (o : Options) (w : World)
    (failing : Failing) :
    outcomesOf spec path o { w with failing := failing } = outcomesOf spec path o w := by
  have h := runScenarios_inSession (contextIn spec path o w) path o.screenshotsDirname []
    spec.scenarios (ready spec path w) { w with failing := failing }
  exact congrArg (·.2.outcomes) h

private theorem givenUp_outcomes (fault : EngineError) {v : World}
    (h : v.outcomes.length = spec.scenarios.length) :
    (givenUp spec fault v).outcomes = v.outcomes := by
  rw [givenUp, h, List.drop_length, List.map_nil, List.append_nil]

/-- What the scenarios of a spec do in the session that was opened for them. -/
theorem scenariosOf_course (hp : Calm w.page) (opened : World)
    (hw : opened = (ready spec path w).inSession opened) :
    (outcome (scenariosOf spec path o w) opened).1 = .ok () ∧
    (outcome (scenariosOf spec path o w) opened).2.failing = opened.failing ∧
    (outcome (scenariosOf spec path o w) opened).2.outcomes = outcomesOf spec path o w ∧
    (outcomesOf spec path o w).map Outcome.name = spec.scenarios.map Scenario.name ∧
    ∃ shots,
      uniquePaths [] (spec.scenarios.map fun s => failurePath path s.name o.screenshotsDirname) =
        .ok shots ∧
      Ran (contextIn spec path o w) (spec.scenarios.zip shots) opened (outcomesOf spec path o w)
        (outcome (scenariosOf spec path o w) opened).2 := by
  obtain ⟨shots, hu, hc⟩ := runScenarios_course (contextIn spec path o w) path
    o.screenshotsDirname [] spec.scenarios opened
  have hok := runScenarios_calm (contextIn spec path o w) path o.screenshotsDirname []
    spec.scenarios (w := opened) (by rw [hw]; exact hp)
  obtain ⟨hf, _⟩ := World.session_eq (runScenarios_session (contextIn spec path o w) path
    o.screenshotsDirname [] spec.scenarios opened)
  have hx : (outcome (scenariosOf spec path o w) opened).2.outcomes = outcomesOf spec path o w := by
    have h := runScenarios_inSession (contextIn spec path o w) path o.screenshotsDirname []
      spec.scenarios (ready spec path w) opened
    rw [← hw] at h
    exact congrArg (·.2.outcomes) h
  rw [hok] at hc
  obtain ⟨hr⟩ := hc
  have he : opened.outcomes = [] := by rw [hw]; rfl
  have hxs := hr.outcomes
  rw [he, List.nil_append] at hxs
  rw [← hxs] at hr
  change Ran _ _ _ (outcome (scenariosOf spec path o w) opened).2.outcomes _ at hr
  rw [hx] at hr
  have hn := hr.names
  have hlen := uniquePaths_length hu
  rw [List.length_map] at hlen
  rw [List.map_fst_zip (Nat.le_of_eq hlen.symm)] at hn
  exact ⟨hok, hf, hx, hn, shots, hu, hr⟩

/-- If the session of a spec opens, all scenarios run, and a fault in closing it changes nothing
about their outcomes. -/
theorem runSpec_opened (ho : o.Regular) (hd : BrowserOnly w.failing) (hp : Calm w.page)
    (hs : Opens w.failing o) :
    (outcome (runSpec spec path o) w).1 =
      .ok (SpecResult.ofOutcomes spec.feature spec.status (outcomesOf spec path o w)) := by
  rcases withSession_cases o (scenariosOf spec path o w) (ready spec path w) with
    ⟨engine, slow, window, timeout, opened, hw, _, hopen, hr⟩ | ⟨_, _, _, hcut, _⟩
  · obtain ⟨hok, hf, hx, hn, _⟩ := scenariosOf_course spec path (o := o) hp opened
      (by rw [hw]; rfl)
    have hd' : BrowserOnly (outcome (scenariosOf spec path o w) opened).2.failing := by
      rw [hf, hw]
      exact hd
    have hlen : (outcomesOf spec path o w).length = spec.scenarios.length := by
      simpa using congrArg List.length hn
    rw [outcome_runSpec, hr, hok]
    cases hl : (stepFailures
        (outcome (scenariosOf spec path o w) opened).2.failing closing).getLast? with
    | none => exact concluded_result hx
    | some e =>
      obtain ⟨fault, hfault⟩ := ho.reported .close (hd'.stepFailures (List.mem_of_getLast? hl))
      dsimp only
      rw [hfault]
      have hg := givenUp_outcomes spec fault
        (v := took (outcome (scenariosOf spec path o w) opened).2 closing)
        (by rw [← hlen, ← hx]; rfl)
      exact concluded_result (hg.trans hx)
  · exact (hs.not_cutShort hcut).elim

private theorem ofOutcomes_count (spec : Spec) {xs : List Outcome}
    (h : xs.map Outcome.name = spec.scenarios.map Scenario.name) :
    (SpecResult.ofOutcomes spec.feature spec.status xs).passed +
      (SpecResult.ofOutcomes spec.feature spec.status xs).failed = spec.scenarios.length := by
  have hl : xs.length = spec.scenarios.length := by simpa using congrArg List.length h
  have hc : xs.countP (·.passed) ≤ xs.length := List.countP_le_length
  simp only [SpecResult.ofOutcomes]
  omega

/-- The run of a spec ends with a result that has one outcome for each scenario. They all fail by
the same fault if no session opens; otherwise they are what the scenarios came to, and a fault in
closing the session is not seen in them. -/
theorem runSpec_concludes (spec : Spec) (path : Path) (o : Options) (w : World)
    (ho : o.Regular) (hd : BrowserOnly w.failing) (hp : Calm w.page) :
    ∃ result after, outcome (runSpec spec path o) w = (.ok result, after) ∧
      result.outcomes.map Outcome.name = spec.scenarios.map Scenario.name ∧
      result.passed = result.outcomes.countP (·.passed) ∧
      result.passed + result.failed = spec.scenarios.length ∧
      (∀ e last, outcome (openSession o) (ready spec path w) = (.error e, last) →
        ∃ fault, reported o .launch e = .engine fault ∧ after.calls = w.calls ∧
          ∀ x ∈ result.outcomes,
            x.passed = false ∧ x.error = some fault.message ∧ x.screenshot = none) ∧
      ∀ opened, outcome (openSession o) (ready spec path w) = (.ok (), opened) →
        (∃ shots last,
          uniquePaths [] (spec.scenarios.map fun s =>
            failurePath path s.name o.screenshotsDirname) = .ok shots ∧
          Ran (contextIn spec path o w) (spec.scenarios.zip shots) opened result.outcomes last) ∧
        ∀ failing, BrowserOnly failing →
          (∀ step, step ∉ closing.map SessionEvent.step →
            failing.lookup step = w.failing.lookup step) →
          (outcome (runSpec spec path o) { w with failing := failing }).1 = .ok result := by
  rcases openSession_cases o (ready spec path w) with
    ⟨engine, slow, window, timeout, hs, hopens⟩ | ⟨events, e, hs, hcut⟩
  · obtain ⟨_, _, _, hn, shots, hu, hran⟩ := scenariosOf_course spec path (o := o) hp
      (timed (took (ready spec path w)
        [.start, .launch engine o.headless slow, .newContext window, .newPage]) timeout) rfl
    have hr := runSpec_opened spec path ho hd hp hopens
    refine ⟨_, _, Prod.ext hr rfl, hn, rfl, ofOutcomes_count spec hn, ?_, ?_⟩
    · intro e last h
      rw [hs] at h
      cases h
    · intro opened h
      rw [hs] at h
      cases h
      refine ⟨⟨shots, _, hu, hran⟩, ?_⟩
      intro failing hb hf
      have hr' := runSpec_opened spec path (w := { w with failing := failing })
        ho hb hp (hopens.of_closing hf)
      rw [hr', outcomesOf_failing]
  · obtain ⟨fault, hfault, hr⟩ := runSpec_cutShort spec path ho hd hs hcut
    have hx : (givenUp spec fault (took (ready spec path w) events)).outcomes =
        spec.scenarios.map (notRun fault.message) := rfl
    have hn : (spec.scenarios.map (notRun fault.message)).map Outcome.name =
        spec.scenarios.map Scenario.name := by
      rw [List.map_map]
      rfl
    refine ⟨_, _, hr.trans (Prod.ext (concluded_result hx) rfl), hn, rfl,
      ofOutcomes_count spec hn, ?_, ?_⟩
    · intro e' last h
      rw [hs] at h
      cases h
      refine ⟨fault, hfault, rfl, ?_⟩
      intro x hmem
      obtain ⟨_, _, rfl⟩ := List.mem_map.mp hmem
      exact ⟨rfl, rfl, rfl⟩
    · intro opened h
      rw [hs] at h
      cases h

def shopSpec : Spec where
  feature := "Shop"
  description := none
  status := .active
  baseUrl := none
  vars := .empty
  scenarios := [⟨"Sign in", [.known (.clickText "Sign in")]⟩, ⟨"Leave", []⟩]

/-- A world without files, in which the page is empty and no window can be closed. -/
def shopWorld : World where
  page := { faults := [⟨.click, .runtime "lost", 1, 0⟩] }
  failing := [(.closeContext, .browser ⟨false, "gone"⟩)]
  files := ⟨[], []⟩
  picks := ⟨[0], 0⟩

theorem runSpec_concludes_shop :
    ∃ result after, outcome (runSpec shopSpec (Path.ofString "shop.yaml") {}) shopWorld =
        (.ok result, after) ∧
      result.outcomes.map Outcome.name = ["Sign in", "Leave"] ∧
      result.passed + result.failed = 2 ∧
      (outcome (runSpec shopSpec (Path.ofString "shop.yaml") {})
        { shopWorld with failing := [] }).1 = .ok result := by
  have ho : Options.Regular {} := ⟨⟨_, rfl⟩, ⟨_, rfl⟩, ⟨_, rfl⟩, .inl rfl⟩
  have hd : BrowserOnly shopWorld.failing := by
    intro step e h
    cases step <;> cases h
    exact ⟨_, rfl⟩
  have hp : Calm shopWorld.page := by
    intro e he
    cases List.mem_singleton.mp he
    rfl
  obtain ⟨result, after, hr, hn, _, hc, _, hopened⟩ :=
    runSpec_concludes shopSpec (Path.ofString "shop.yaml") {} shopWorld ho hd hp
  obtain ⟨_, hsame⟩ := hopened _ rfl
  refine ⟨result, after, hr, hn, hc, hsame [] ?_ ?_⟩
  · intro step e h
    cases h
  · intro step hstep
    cases step <;> first | rfl | exact (hstep (by decide)).elim

end Concluded

end FeatureRun.Run
