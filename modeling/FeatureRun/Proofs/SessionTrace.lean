import FeatureRun.Proofs.SpecRun

/-!
The trace of the session steps of a run. It is made of complete sessions, however the run ends: what
was acquired is released once, in reverse order, and nothing else is.
-/
namespace FeatureRun.Run
open FeatureRun.Text FeatureRun.Data FeatureRun.Files FeatureRun.Spec FeatureRun.Browser

structure CompleteSession (failing : Failing) (o : Options) (steps : List SessionStep) : Prop where
  start : steps.head? = some .start ∧ steps.count .start = 1
  notStarted : failing.lookup .start ≠ none → steps = [.start]
  stop : failing.lookup .start = none → steps.getLast? = some .stop ∧ steps.count .stop = 1
  launch : steps.count .launch ≤ 1
  browser : .launch ∈ steps → failing.lookup .launch = none →
    steps.count .closeBrowser = 1 ∧ [.launch, .closeBrowser].Sublist steps
  notLaunched : .launch ∉ steps ∨ failing.lookup .launch ≠ none → .closeBrowser ∉ steps
  context : Opens failing o →
    steps.count .closeContext = 1 ∧ [.newPage, .closeContext, .closeBrowser].Sublist steps
  notOpened : ¬ Opens failing o → .closeContext ∉ steps

abbrev stepsOf (events : List SessionEvent) : List SessionStep := events.map SessionEvent.step

section Sessions
variable {failing : Failing} {o : Options} {events : List SessionEvent} {e : Failure}

private theorem opens_complete (h : Opens failing o) (engine : BrowserEngine) (slow : Option Int)
    (window : Option (Int × Int)) :
    CompleteSession failing o (stepsOf
      ([.start, .launch engine o.headless slow, .newContext window, .newPage] ++ closing)) := by
  change CompleteSession failing o
    [.start, .launch, .newContext, .newPage, .closeContext, .closeBrowser, .stop]
  exact {
    start := by decide
    notStarted := fun hs => (hs h.start).elim
    stop := fun _ => by decide
    launch := by decide
    browser := fun _ _ => by decide
    notLaunched := fun hl =>
      hl.elim (fun hl => absurd (by decide) hl) (fun hl => (hl h.launch).elim)
    context := fun _ => by decide
    notOpened := fun hn => (hn h).elim }

/-- What is done between the start of a driver and its stop when no session opens. -/
private theorem launchCut_steps (h : LaunchCut failing o events e) :
    failing.lookup .launch = none ∧
      (stepsOf events = [.launch, .closeBrowser] ∨
        stepsOf events = [.launch, .newContext, .closeBrowser] ∨
        stepsOf events = [.launch, .newContext, .newPage, .closeBrowser]) ∨
    (.launch ∈ stepsOf events → failing.lookup .launch ≠ none) ∧
      (stepsOf events = [.launch] ∨ stepsOf events = []) := by
  cases h with
  | engine _ => exact .inr ⟨fun h => absurd h (by decide), .inr rfl⟩
  | slowMotion _ => exact .inr ⟨fun h => absurd h (by decide), .inr rfl⟩
  | launch _ _ hl =>
    refine .inr ⟨fun _ => ?_, .inl rfl⟩
    rw [hl]
    exact Option.some_ne_none e
  | page _ _ hl hp =>
    refine .inl ⟨hl, ?_⟩
    cases hp with
    | window _ => exact .inl rfl
    | context _ _ => exact .inr (.inl rfl)
    | page _ _ _ => exact .inr (.inr rfl)
    | timeout _ _ _ _ => exact .inr (.inr rfl)

private theorem cutShort_complete (h : CutShort failing o events e) :
    CompleteSession failing o (stepsOf events) := by
  have hn : ¬ Opens failing o := fun ho => ho.not_cutShort h
  cases h with
  | start hs =>
    have hs' : failing.lookup .start ≠ none := by
      rw [hs]
      exact Option.some_ne_none e
    change CompleteSession failing o [.start]
    exact {
      start := by decide
      notStarted := fun _ => rfl
      stop := fun h => (hs' h).elim
      launch := by decide
      browser := fun h => absurd h (by decide)
      notLaunched := fun _ => by decide
      context := fun h => (hn h).elim
      notOpened := fun _ => by decide }
  | @launch _ inner hs hl =>
    have hi : stepsOf (.start :: (inner ++ [.stop])) = .start :: (stepsOf inner ++ [.stop]) := by
      rw [stepsOf, List.map_cons, List.map_append]
      rfl
    rw [hi]
    rcases launchCut_steps hl with ⟨hl, hm⟩ | ⟨hl, hm⟩
    · rcases hm with hm | hm | hm <;> rw [hm] <;> exact {
        start := by decide
        notStarted := fun h => (h hs).elim
        stop := fun _ => by decide
        launch := by decide
        browser := fun _ _ => by decide
        notLaunched := fun h => h.elim (fun h => absurd (by decide) h) (fun h => (h hl).elim)
        context := fun h => (hn h).elim
        notOpened := fun _ => by decide }
    · rcases hm with hm | hm <;> rw [hm] at hl ⊢ <;> exact {
        start := by decide
        notStarted := fun h => (h hs).elim
        stop := fun _ => by decide
        launch := by decide
        browser := fun h hnone => (hl (by simp at h ⊢) hnone).elim
        notLaunched := fun _ => by decide
        context := fun h => (hn h).elim
        notOpened := fun _ => by decide }

end Sessions

/-- A part of a run leads from one world to another and adds one complete session to the trace. -/
def AddsSession (o : Options) (w w' : World) : Prop :=
  w'.failing = w.failing ∧
    ∃ block, w'.events = w.events ++ block ∧ CompleteSession w.failing o (stepsOf block)

theorem AddsSession.grows {o : Options} {w w' : World} (h : AddsSession o w w') :
    w.events.length < w'.events.length := by
  obtain ⟨_, block, he, hc⟩ := h
  have hb : block ≠ [] := by
    rintro rfl
    cases hc.start.1
  rw [he, List.length_append]
  exact Nat.lt_add_of_pos_right (List.length_pos_iff.mpr hb)

def AddsSessions (o : Options) (most : Nat) (w w' : World) : Prop :=
  w'.failing = w.failing ∧
    ∃ blocks : List (List SessionEvent), w'.events = w.events ++ blocks.flatten ∧
      blocks.length ≤ most ∧ ∀ block ∈ blocks, CompleteSession w.failing o (stepsOf block)

namespace AddsSessions
variable {o : Options} {m n : Nat} {w w' w'' : World}

theorem none (hf : w'.failing = w.failing) (he : w'.events = w.events) : AddsSessions o m w w' :=
  ⟨hf, [], by rw [he, List.flatten_nil, List.append_nil], Nat.zero_le _, fun _ h => nomatch h⟩

theorem one (h : AddsSession o w w') : AddsSessions o 1 w w' := by
  obtain ⟨hf, block, he, hc⟩ := h
  refine ⟨hf, [block], by rw [he, List.flatten_singleton], Nat.le_refl 1, ?_⟩
  intro b hb
  rw [List.mem_singleton.mp hb]
  exact hc

theorem trans (h : AddsSessions o m w w') (h' : AddsSessions o n w' w'') :
    AddsSessions o (m + n) w w'' := by
  obtain ⟨hf, bs, he, hl, hb⟩ := h
  obtain ⟨hf', bs', he', hl', hb'⟩ := h'
  refine ⟨hf'.trans hf, bs ++ bs', ?_, ?_, ?_⟩
  · rw [he', he, List.append_assoc, List.flatten_append]
  · rw [List.length_append]
    omega
  · intro block hmem
    rcases List.mem_append.mp hmem with hmem | hmem
    · exact hb block hmem
    · rw [← hf]
      exact hb' block hmem

end AddsSessions

/-- A session is complete whatever becomes of its body, as long as the body leaves it alone. -/
theorem withSession_addsSession {α : Type} (o : Options) (body : Run α) (w : World)
    (hbody : ∀ v, (outcome body v).2.inSession v = (outcome body v).2) :
    AddsSession o w (outcome (withSession o body) w).2 := by
  rcases withSession_cases o body w with
    ⟨engine, slow, window, timeout, opened, hw, hs, _, hr⟩ | ⟨events, e, _, hc, hr⟩
  · obtain ⟨hf, he⟩ := World.session_eq (hbody opened)
    rw [hr]
    refine ⟨by rw [took_failing, hf, hw]; rfl, _, ?_, opens_complete hs engine slow window⟩
    rw [← List.append_assoc]
    exact congrArg (· ++ closing) (he.trans (by rw [hw]; rfl))
  · rw [hr]
    exact ⟨rfl, events, rfl, cutShort_complete hc⟩

theorem runSpec_addsSession (spec : Spec) (path : Path) (o : Options) (w : World) :
    AddsSession o w (outcome (runSpec spec path o) w).2 := by
  have h := withSession_addsSession o (scenariosOf spec path o w) (ready spec path w)
    (runScenarios_session (contextIn spec path o w) path o.screenshotsDirname [] spec.scenarios)
  rw [outcome_runSpec]
  rcases hr : outcome (withSession o (scenariosOf spec path o w)) (ready spec path w) with
    ⟨e | _, w'⟩ <;> rw [hr] at h
  · cases e <;> exact h
  · exact h

def counted (s : Summary) (path : Path) :
    Except Failure SpecResult × World → Except Failure Summary × World
  | (.ok result, w) => (.ok (s.add result), w)
  | (.error (.load e), w) =>
    (.ok s.addLoadFailure, { w with notices := w.notices ++ [.loadFailed path e.message] })
  | (.error e, w) => (.error e, w)

theorem outcome_runSpecFile (path : Path) (o : Options) (w : World) :
    outcome (runSpecFile path o) w =
      match loadSpec w.files path with
      | .ok spec => outcome (runSpec spec path o) w
      | .error e => (.error e, w) := by
  rw [runSpecFile, outcome_bind_ok (outcome_get w), outcome_bind, outcome_ofExcept]
  cases loadSpec w.files path <;> rfl

theorem outcome_addSpecFile (o : Options) (s : Summary) (path : Path) (w : World) :
    outcome (addSpecFile o s path) w = counted s path (outcome (runSpecFile path o) w) := by
  rw [addSpecFile, outcome_tryCatch, outcome_bind]
  rcases outcome (runSpecFile path o) w with ⟨e | _, w'⟩
  · cases e <;> rfl
  · rfl

theorem outcome_runSpecs_cons (o : Options) (s : Summary) (path : Path) (rest : List Path)
    (w : World) :
    outcome (runSpecs o s (path :: rest)) w =
      match outcome (addSpecFile o s path) w with
      | (.ok s', w') => outcome (runSpecs o s' rest) w'
      | (.error e, w') => (.error e, w') := by
  rw [runSpecs, outcome_bind]
  rcases outcome (addSpecFile o s path) w with ⟨_ | _, _⟩ <;> rfl

theorem addSpecFile_addsSessions (o : Options) (s : Summary) (path : Path) (w : World) :
    AddsSessions o 1 w (outcome (addSpecFile o s path) w).2 := by
  have hc (r : Except Failure SpecResult × World) (h : AddsSessions o 1 w r.2) :
      AddsSessions o 1 w (counted s path r).2 := by
    rcases r with ⟨e | _, w'⟩
    · cases e <;> exact h
    · exact h
  rw [outcome_addSpecFile, outcome_runSpecFile]
  apply hc
  cases loadSpec w.files path with
  | error e => exact .none rfl rfl
  | ok spec => exact .one (runSpec_addsSession spec path o w)

theorem runSpecs_addsSessions (o : Options) (s : Summary) (paths : List Path) (w : World) :
    AddsSessions o paths.length w (outcome (runSpecs o s paths) w).2 := by
  induction paths generalizing s w with
  | nil => exact .none rfl rfl
  | cons path rest ih =>
    have h := addSpecFile_addsSessions o s path w
    rw [outcome_runSpecs_cons, List.length_cons, Nat.add_comm]
    rcases hr : outcome (addSpecFile o s path) w with ⟨e | s', w'⟩ <;> rw [hr] at h
    · exact h.trans (.none rfl rfl)
    · exact h.trans (ih s' w')

/-- Every run leaves complete sessions behind, one after the other, no more than it has files. -/
theorem runSpecs_sessions (o : Options) (s : Summary) (paths : List Path) (w : World) :
    ∃ blocks : List (List SessionEvent),
      (outcome (runSpecs o s paths) w).2.events = w.events ++ blocks.flatten ∧
      blocks.length ≤ paths.length ∧
      ∀ block ∈ blocks, CompleteSession w.failing o (stepsOf block) :=
  (runSpecs_addsSessions o s paths w).2

end FeatureRun.Run
