import FeatureRun.Proofs.Outcome

/-!
The course of a browser session: which steps are taken, and which failure is left in the end. Of
several failures the last one counts.
-/
namespace FeatureRun.Browser
open FeatureRun.Text FeatureRun.Data FeatureRun.Run

abbrev Failing := List (SessionStep × Failure)

def stepFailures (failing : Failing) (events : List SessionEvent) : List Failure :=
  events.filterMap fun e => failing.lookup e.step

/-- What is left of a failure when the steps taken after it may fail too. -/
def overtaken (failing : Failing) (events : List SessionEvent) (e : Failure) : Failure :=
  (stepFailures failing events).getLast?.getD e

def took (w : World) (events : List SessionEvent) : World :=
  { w with events := w.events ++ events }

@[simp] theorem took_failing (w : World) (events : List SessionEvent) :
    (took w events).failing = w.failing := rfl

@[simp] theorem took_took (w : World) (es fs : List SessionEvent) :
    took (took w es) fs = took w (es ++ fs) := by
  simp only [took, List.append_assoc]

@[simp] theorem took_nil (w : World) : took w [] = w := by
  simp only [took, List.append_nil]

def timed (w : World) (timeout : Option Int) : World := { w with defaultTimeout := timeout }

/-- The opening of a page was cut short, after these steps and by this failure. -/
inductive PageCut (failing : Failing) (o : Options) : List SessionEvent → Failure → Prop
  | window {c : CastError} : windowSize o.viewport = .error c → PageCut failing o [] (.cast c)
  | context {e : Failure} (window : Option (Int × Int)) :
      failing.lookup .newContext = some e → PageCut failing o [.newContext window] e
  | page {e : Failure} (window : Option (Int × Int)) :
      failing.lookup .newContext = none → failing.lookup .newPage = some e →
      PageCut failing o [.newContext window, .newPage] e
  | timeout {c : CastError} (window : Option (Int × Int)) :
      failing.lookup .newContext = none → failing.lookup .newPage = none →
      positiveMilliseconds o.timeout = .error c →
      PageCut failing o [.newContext window, .newPage] (.cast c)

/-- The launch of a browser with a page was cut short. A browser that runs is closed. -/
inductive LaunchCut (failing : Failing) (o : Options) : List SessionEvent → Failure → Prop
  | engine {e : Failure} {w : World} :
      outcome (chooseEngine o.browser) w = (.error e, w) → LaunchCut failing o [] e
  | slowMotion {c : CastError} :
      positiveMilliseconds o.slowMotion = .error c → LaunchCut failing o [] (.cast c)
  | launch {e : Failure} {engine : BrowserEngine} {w : World} (slow : Option Int) :
      outcome (chooseEngine o.browser) w = (.ok engine, w) → failing.lookup .launch = some e →
      LaunchCut failing o [.launch engine o.headless slow] e
  | page {e : Failure} {events : List SessionEvent} {engine : BrowserEngine} {w : World}
      (slow : Option Int) :
      outcome (chooseEngine o.browser) w = (.ok engine, w) → failing.lookup .launch = none →
      PageCut failing o events e →
      LaunchCut failing o (.launch engine o.headless slow :: (events ++ [.closeBrowser]))
        (overtaken failing [.closeBrowser] e)

/-- The opening of a session was cut short. A driver that runs is stopped. -/
inductive CutShort (failing : Failing) (o : Options) : List SessionEvent → Failure → Prop
  | start {e : Failure} : failing.lookup .start = some e → CutShort failing o [.start] e
  | launch {e : Failure} {events : List SessionEvent} :
      failing.lookup .start = none → LaunchCut failing o events e →
      CutShort failing o (.start :: (events ++ [.stop])) (overtaken failing [.stop] e)

structure Opens (failing : Failing) (o : Options) : Prop where
  start : failing.lookup .start = none
  engine : ∃ engine, ∀ w, outcome (chooseEngine o.browser) w = (.ok engine, w)
  slowMotion : ∃ slow, positiveMilliseconds o.slowMotion = .ok slow
  launch : failing.lookup .launch = none
  window : ∃ window, windowSize o.viewport = .ok window
  context : failing.lookup .newContext = none
  page : failing.lookup .newPage = none
  timeout : ∃ n, positiveMilliseconds o.timeout = .ok n

theorem outcome_takeStep (e : SessionEvent) (w : World) :
    outcome (takeStep e) w =
      (match w.failing.lookup e.step with
        | some failure => .error failure
        | none => .ok (),
      took w [e]) := by
  simp only [takeStep, outcome_bind, outcome_modify, outcome_get, took]
  cases w.failing.lookup e.step <;> rfl

private theorem takeStep_ok {e : SessionEvent} {w : World} (h : w.failing.lookup e.step = none) :
    outcome (takeStep e) w = (.ok (), took w [e]) := by
  rw [outcome_takeStep, h]

private theorem takeStep_error {e : SessionEvent} {w : World} {failure : Failure}
    (h : w.failing.lookup e.step = some failure) :
    outcome (takeStep e) w = (.error failure, took w [e]) := by
  rw [outcome_takeStep, h]

/-- A failure is undone by a step, which may put its own failure in the place of the first. -/
private theorem undoing_error {α : Type} {step : SessionEvent} {body : Run α} {w : World}
    {events : List SessionEvent} {e : Failure} (h : outcome body w = (.error e, took w events)) :
    outcome (undoing (takeStep step) body) w =
      (.error (overtaken w.failing [step] e), took w (events ++ [step])) := by
  simp only [outcome_undoing, h, outcome_takeStep, took_failing, took_took, overtaken,
    stepFailures, List.filterMap_cons]
  cases w.failing.lookup step.step <;> rfl

private theorem undoing_ok {α : Type} {cleanup : Run Unit} {body : Run α} {w w' : World} {x : α}
    (h : outcome body w = (.ok x, w')) : outcome (undoing cleanup body) w = (.ok x, w') := by
  rw [outcome_undoing, h]

/-- The choice of an engine neither sees the world nor changes it. -/
theorem chooseEngine_outcome (v : Value) : ∃ r, ∀ w, outcome (chooseEngine v) w = (r, w) := by
  unfold chooseEngine
  split
  · dsimp only
    split <;> exact ⟨_, fun _ => rfl⟩
  · exact ⟨_, fun _ => rfl⟩
  · exact ⟨_, fun _ => rfl⟩

/-- A page is opened in two steps, or its opening is cut short. -/
private theorem openPage_cases (o : Options) (w : World) :
    (∃ window timeout,
      outcome (openPage o) w = (.ok (), timed (took w [.newContext window, .newPage]) timeout) ∧
      windowSize o.viewport = .ok window ∧ w.failing.lookup .newContext = none ∧
      w.failing.lookup .newPage = none ∧ ∃ n, positiveMilliseconds o.timeout = .ok n) ∨
    ∃ events e, outcome (openPage o) w = (.error e, took w events) ∧
      PageCut w.failing o events e := by
  unfold openPage
  cases hv : windowSize o.viewport with
  | error c => exact .inr ⟨[], .cast c, by rw [took_nil]; rfl, .window hv⟩
  | ok window =>
    rw [outcome_bind_ok (outcome_ofExcept _ _ _)]
    cases hc : w.failing.lookup .newContext with
    | some e =>
      exact .inr ⟨_, e, outcome_bind_error (takeStep_error hc), .context window hc⟩
    | none =>
      rw [outcome_bind_ok (takeStep_ok (e := .newContext window) hc)]
      have hw : (took w [.newContext window]).failing = w.failing := rfl
      cases hp : w.failing.lookup .newPage with
      | some e =>
        refine .inr ⟨_, e, outcome_bind_error ?_, .page window hc hp⟩
        exact (takeStep_error (by rw [hw]; exact hp)).trans (by rw [took_took]; rfl)
      | none =>
        rw [outcome_bind_ok (takeStep_ok (e := .newPage) (by rw [hw]; exact hp)), took_took]
        cases ht : positiveMilliseconds o.timeout with
        | error c =>
          exact .inr ⟨_, .cast c, outcome_bind_error rfl, .timeout window hc hp ht⟩
        | ok timeout =>
          refine .inl ⟨window, timeout.or w.defaultTimeout, ?_, rfl, rfl, rfl, timeout, rfl⟩
          cases timeout <;> rfl

/-- A browser is launched with a page, or its launch is cut short. -/
private theorem launchBrowser_cases (o : Options) (w : World)
    (hs : w.failing.lookup .start = none) :
    (∃ engine slow window timeout, outcome (launchBrowser o) w =
        (.ok (), timed (took w [.launch engine o.headless slow, .newContext window, .newPage])
          timeout) ∧ Opens w.failing o) ∨
    ∃ events e, outcome (launchBrowser o) w = (.error e, took w events) ∧
      LaunchCut w.failing o events e := by
  unfold launchBrowser
  obtain ⟨r, hc⟩ := chooseEngine_outcome o.browser
  cases r with
  | error e => exact .inr ⟨[], e, by rw [took_nil]; exact outcome_bind_error (hc w), .engine (hc w)⟩
  | ok engine =>
    rw [outcome_bind_ok (hc w)]
    cases hm : positiveMilliseconds o.slowMotion with
    | error c => exact .inr ⟨[], .cast c, by rw [took_nil]; rfl, .slowMotion hm⟩
    | ok slow =>
      rw [outcome_bind_ok (outcome_ofExcept _ _ _)]
      cases hl : w.failing.lookup .launch with
      | some e =>
        exact .inr ⟨_, e, outcome_bind_error (takeStep_error hl), .launch slow (hc w) hl⟩
      | none =>
        rw [outcome_bind_ok (takeStep_ok (e := .launch engine o.headless slow) hl)]
        rcases openPage_cases o (took w [.launch engine o.headless slow]) with
          ⟨window, timeout, hp, hv, hn, hq, ht⟩ | ⟨events, e, hp, hcut⟩
        · refine .inl ⟨engine, slow, window, timeout, ?_,
            hs, ⟨engine, hc⟩, ⟨slow, hm⟩, hl, ⟨window, hv⟩, hn, hq, ht⟩
          rw [undoing_ok hp, took_took]
          rfl
        · refine .inr ⟨_, _, ?_, .page slow (hc w) hl hcut⟩
          rw [undoing_error hp, took_took]
          rfl

/-- A session is opened in four steps, or its opening is cut short. -/
theorem openSession_cases (o : Options) (w : World) :
    (∃ engine slow window timeout, outcome (openSession o) w =
        (.ok (), timed (took w
          [.start, .launch engine o.headless slow, .newContext window, .newPage]) timeout) ∧
      Opens w.failing o) ∨
    ∃ events e, outcome (openSession o) w = (.error e, took w events) ∧
      CutShort w.failing o events e := by
  unfold openSession
  cases hs : w.failing.lookup .start with
  | some e => exact .inr ⟨_, e, outcome_bind_error (takeStep_error hs), .start hs⟩
  | none =>
    rw [outcome_bind_ok (takeStep_ok (e := .start) hs)]
    rcases launchBrowser_cases o (took w [.start]) hs with
      ⟨engine, slow, window, timeout, hl, ha⟩ | ⟨events, e, hl, hcut⟩
    · refine .inl ⟨engine, slow, window, timeout, ?_, ha⟩
      rw [undoing_ok hl, took_took]
      rfl
    · refine .inr ⟨_, _, ?_, .launch hs hcut⟩
      rw [undoing_error hl, took_took]
      rfl

def closing : List SessionEvent := [.closeContext, .closeBrowser, .stop]

/-- All closing steps are taken, and the last of them that fails decides. -/
theorem outcome_closeSession (w : World) :
    outcome closeSession w =
      (match (stepFailures w.failing closing).getLast? with
        | some e => .error e
        | none => .ok (),
      took w closing) := by
  simp only [closeSession, outcome_andAlways, outcome_takeStep, took_failing, took_took, closing,
    stepFailures, List.filterMap_cons, List.filterMap_nil]
  cases w.failing.lookup SessionEvent.closeContext.step <;>
    cases w.failing.lookup SessionEvent.closeBrowser.step <;>
      cases w.failing.lookup SessionEvent.stop.step <;> rfl

/-- A failure as it leaves a session: that of the browser becomes a fault of the engine. -/
def reported (o : Options) (fault : String → BrowserError → EngineError) : Failure → Failure
  | .browser b =>
    match o.browser.display with
    | .ok name => .engine (fault name b)
    | .error c => .conversion c
  | e => e

theorem outcome_asEngineFault {α : Type} (o : Options)
    (fault : String → BrowserError → EngineError) (body : Run α) (w : World) :
    outcome (asEngineFault o fault body) w =
      ((outcome body w).1.mapError (reported o fault), (outcome body w).2) := by
  rw [asEngineFault, outcome_tryCatch]
  rcases outcome body w with ⟨e | x, w'⟩
  · dsimp only
    split
    · rename_i b
      change _ = (Except.error (reported o fault (.browser b)), w')
      rw [outcome_bind, outcome_ofExcept, reported]
      cases o.browser.display <;> rfl
    · rename_i hb
      change _ = (Except.error (reported o fault e), w')
      rw [outcome_throw, reported]
      exact fun b h => hb b h
  · rfl

/-- A session that opens runs its body and takes its closing steps, of which the last one that
fails decides; a session that does not open has no body. -/
theorem withSession_cases {α : Type} (o : Options) (body : Run α) (w : World) :
    (∃ engine slow window timeout opened,
      opened = timed (took w
        [.start, .launch engine o.headless slow, .newContext window, .newPage]) timeout ∧
      Opens w.failing o ∧ outcome (openSession o) w = (.ok (), opened) ∧
      outcome (withSession o body) w =
        (match (stepFailures (outcome body opened).2.failing closing).getLast? with
          | some e => .error (reported o .close e)
          | none => (outcome body opened).1,
        took (outcome body opened).2 closing)) ∨
    ∃ events e, outcome (openSession o) w = (.error e, took w events) ∧
      CutShort w.failing o events e ∧
      outcome (withSession o body) w = (.error (reported o .launch e), took w events) := by
  rcases openSession_cases o w with ⟨engine, slow, window, timeout, ho, ha⟩ | ⟨events, e, ho, hcut⟩
  · refine .inl ⟨engine, slow, window, timeout, _, rfl, ha, ho, ?_⟩
    have hl := outcome_asEngineFault o .launch (openSession o) w
    rw [ho] at hl
    rw [withSession, outcome_bind_ok hl, outcome_andAlways, outcome_asEngineFault,
      outcome_closeSession]
    cases (stepFailures (outcome body _).2.failing closing).getLast? <;> rfl
  · refine .inr ⟨events, e, ho, hcut, ?_⟩
    have hl := outcome_asEngineFault o .launch (openSession o) w
    rw [ho] at hl
    exact outcome_bind_error hl

/-- A session that can be opened is not cut short. -/
theorem Opens.not_cutShort {failing : Failing} {o : Options} {events : List SessionEvent}
    {e : Failure} (h : Opens failing o) (hc : CutShort failing o events e) : False := by
  obtain ⟨engine, he⟩ := h.engine
  obtain ⟨slow, hm⟩ := h.slowMotion
  obtain ⟨window, hv⟩ := h.window
  obtain ⟨n, ht⟩ := h.timeout
  cases hc with
  | start hs => simp [h.start] at hs
  | launch _ hl =>
    cases hl with
    | engine hx => simp [he] at hx
    | slowMotion hx => simp [hm] at hx
    | launch _ _ hx => simp [h.launch] at hx
    | page _ _ _ hp =>
      cases hp with
      | window hx => simp [hv] at hx
      | context _ hx => simp [h.context] at hx
      | page _ _ hx => simp [h.page] at hx
      | timeout _ _ _ hx => simp [ht] at hx

/-- A session opens exactly if it can be opened. -/
theorem openSession_ok_iff (o : Options) (w : World) :
    (outcome (openSession o) w).1 = .ok () ↔ Opens w.failing o := by
  rcases openSession_cases o w with ⟨_, _, _, _, hr, ho⟩ | ⟨_, _, hr, hc⟩
  · rw [hr]
    exact ⟨fun _ => ho, fun _ => rfl⟩
  · rw [hr]
    refine ⟨fun h => ?_, fun ho => (ho.not_cutShort hc).elim⟩
    cases h

/-- Failures that differ in the closing steps alone let the same sessions open. -/
theorem Opens.of_closing {failing failing' : Failing} {o : Options} (h : Opens failing o)
    (hf : ∀ step, step ∉ closing.map SessionEvent.step →
      failing'.lookup step = failing.lookup step) : Opens failing' o where
  start := by rw [hf .start (by decide), h.start]
  engine := h.engine
  slowMotion := h.slowMotion
  launch := by rw [hf .launch (by decide), h.launch]
  window := h.window
  context := by rw [hf .newContext (by decide), h.context]
  page := by rw [hf .newPage (by decide), h.page]
  timeout := h.timeout

theorem stepFailures_append (failing : Failing) (es fs : List SessionEvent) :
    stepFailures failing (es ++ fs) = stepFailures failing es ++ stepFailures failing fs :=
  List.filterMap_append

/-- The last failure among the steps is what is left, if it is so among those before the cleanup. -/
private theorem overtaken_last {failing : Failing} {es cleanup : List SessionEvent} {e f : Failure}
    (he : ∀ f, (stepFailures failing es).getLast? = some f → e = f)
    (hf : (stepFailures failing (es ++ cleanup)).getLast? = some f) :
    overtaken failing cleanup e = f := by
  rw [stepFailures_append, List.getLast?_append] at hf
  unfold overtaken
  cases hc : (stepFailures failing cleanup).getLast? with
  | none =>
    rw [hc] at hf
    exact he f hf
  | some x =>
    rw [hc] at hf
    exact Option.some.inj hf

private theorem stepFailures_ok {failing : Failing} (event : SessionEvent)
    {events : List SessionEvent} (h : failing.lookup event.step = none) :
    stepFailures failing (event :: events) = stepFailures failing events := by
  simp only [stepFailures, List.filterMap_cons, h]

private theorem stepFailures_error {failing : Failing} (event : SessionEvent) {e : Failure}
    (h : failing.lookup event.step = some e) : stepFailures failing [event] = [e] := by
  simp only [stepFailures, List.filterMap_cons, List.filterMap_nil, h]

theorem PageCut.last {failing : Failing} {o : Options} {events : List SessionEvent}
    {e f : Failure} (h : PageCut failing o events e)
    (hf : (stepFailures failing events).getLast? = some f) : e = f := by
  cases h with
  | window _ => cases hf
  | context _ hc =>
    rw [stepFailures_error (.newContext _) hc] at hf
    exact Option.some.inj hf
  | page _ hc hq =>
    rw [stepFailures_ok (.newContext _) hc, stepFailures_error .newPage hq] at hf
    exact Option.some.inj hf
  | timeout _ hc hq _ =>
    rw [stepFailures_ok (.newContext _) hc, stepFailures_ok .newPage hq] at hf
    cases hf

theorem LaunchCut.last {failing : Failing} {o : Options} {events : List SessionEvent}
    {e f : Failure} (h : LaunchCut failing o events e)
    (hf : (stepFailures failing events).getLast? = some f) : e = f := by
  cases h with
  | engine _ => cases hf
  | slowMotion _ => cases hf
  | launch _ _ hl =>
    rw [stepFailures_error (.launch _ _ _) hl] at hf
    exact Option.some.inj hf
  | page _ _ hl hp =>
    rw [stepFailures_ok (.launch _ _ _) hl] at hf
    exact overtaken_last (fun f hf => hp.last hf) hf

/-- Of the steps of a session that is cut short, the last one that fails decides. -/
theorem CutShort.last {failing : Failing} {o : Options} {events : List SessionEvent}
    {e f : Failure} (h : CutShort failing o events e)
    (hf : (stepFailures failing events).getLast? = some f) : e = f := by
  cases h with
  | start hs =>
    rw [stepFailures_error .start hs] at hf
    exact Option.some.inj hf
  | launch hs hl =>
    rw [stepFailures_ok .start hs] at hf
    exact overtaken_last (fun f hf => hl.last hf) hf

/-- The steps of a session that opens fail in closing it alone. -/
theorem Opens.stepFailures {failing : Failing} {o : Options} (h : Opens failing o)
    (engine : BrowserEngine) (slow : Option Int) (window : Option (Int × Int)) :
    stepFailures failing
      ([.start, .launch engine o.headless slow, .newContext window, .newPage] ++ closing) =
    stepFailures failing closing := by
  rw [List.cons_append, stepFailures_ok .start h.start,
    List.cons_append, stepFailures_ok (.launch _ _ _) h.launch,
    List.cons_append, stepFailures_ok (.newContext _) h.context,
    List.cons_append, stepFailures_ok .newPage h.page]
  rfl

/-- Two steps of a session fail only if an engine was chosen. -/
theorem CutShort.chosen {failing : Failing} {o : Options} {events : List SessionEvent}
    {e : Failure} (h : CutShort failing o events e)
    (hf : 2 ≤ (Browser.stepFailures failing events).length) :
    ∃ engine w, outcome (chooseEngine o.browser) w = (.ok engine, w) := by
  have hstop : (Browser.stepFailures failing [.stop]).length ≤ 1 := List.length_filterMap_le _ _
  cases h with
  | start hs =>
    rw [stepFailures_error .start hs, List.length_singleton] at hf
    omega
  | launch hs hl =>
    rw [stepFailures_ok .start hs] at hf
    cases hl with
    | engine _ => exact absurd (Nat.le_trans hf hstop) (by decide)
    | slowMotion _ => exact absurd (Nat.le_trans hf hstop) (by decide)
    | launch _ hc _ => exact ⟨_, _, hc⟩
    | page _ hc _ _ => exact ⟨_, _, hc⟩

end FeatureRun.Browser
