import FeatureRun.Proofs.PictureTrail
import FeatureRun.Proofs.ScreenshotNames
import FeatureRun.Proofs.SessionTrace

/-!
The screenshots of a run. They are taken one after the other, for screenshot steps and for scenarios
that failed, and nothing else in a run has to do with pictures: what a run leaves of them in its
calls, files and notices is accounted for by a list of shots. Main statement: `runSpecs_shots`.
-/
namespace FeatureRun.Run
open FeatureRun.Text FeatureRun.Data FeatureRun.Files FeatureRun.Spec FeatureRun.Browser

/-- What makes a number in the name of a picture; the first of a name has none. -/
def numberSuffix : Option Nat → String
  | none => ""
  | some n => "-" ++ toString n

/-- Why a picture is taken: a step asks for it, or a scenario failed. The number tells scenarios of
one spec apart. -/
inductive Origin where
  | step (text : String)
  | failure (spec : Path) (scenario : String) (number : Option Nat)
deriving DecidableEq, Repr

namespace Origin

def isFailure : Origin → Bool
  | .step _ => false
  | .failure _ _ _ => true

def fileName : Origin → String
  | .step text => screenshotFileName text
  | .failure spec scenario number =>
    spec.stem ++ "-" ++ (scenarioSlug scenario ++ numberSuffix number ++ ".png")

end Origin

/-- An attempt to take a picture, which is written and reported if it is taken. -/
structure Shot where
  directory : Path
  origin : Origin
  taken : Bool
deriving DecidableEq, Repr

namespace Shot

def path (s : Shot) : Path := s.directory.join s.origin.fileName

def picture (s : Shot) : Picture := ⟨s.origin.isFailure, s.path.text⟩

@[simp] theorem picture_ofFailure (s : Shot) : s.picture.ofFailure = s.origin.isFailure := rfl

@[simp] theorem picture_file (s : Shot) : s.picture.file = s.path.text := rfl

end Shot

def takenOf (shots : List Shot) : List Shot := shots.filter (·.taken)

def Pictured (w : World) (shots : List Shot) (w' : World) : Prop :=
  Trail w (shots.map Shot.path) ((takenOf shots).map Shot.path)
    ((takenOf shots).map Shot.picture) w'

namespace Pictured
variable {w w' w'' : World} {shots shots' : List Shot}

theorem none (h : Trail w [] [] [] w') : Pictured w [] w' := h

theorem trans (h : Pictured w shots w') (h' : Pictured w' shots' w'') :
    Pictured w (shots ++ shots') w'' := by
  have ht := Trail.trans h h'
  rwa [← List.map_append, ← List.map_append, ← List.map_append, takenOf, takenOf,
    ← List.filter_append] at ht

theorem after (h : Trail w [] [] [] w') (h' : Pictured w' shots w'') : Pictured w shots w'' :=
  Trail.trans h h'

theorem before (h : Pictured w shots w') (h' : Trail w' [] [] [] w'') : Pictured w shots w'' := by
  have ht := trans h (none h')
  rwa [List.append_nil] at ht

end Pictured

/-- The shot is one for a step of the list, with its text as the variables make it. -/
def StepShot (ctx : Context) (steps : List Step) (s : Shot) : Prop :=
  ∃ text taken, .known (.text .screenshot text) ∈ steps ∧
    s = ⟨ctx.screenshots, .step (ctx.vars.substitute text), taken⟩

/-- All that the part does about pictures is to take shots for which `p` holds. -/
def Shoots (p : Shot → Prop) {α : Type} (r : Run α) : Prop :=
  ∀ w, ∃ shots, Pictured w shots (outcome r w).2 ∧ ∀ s ∈ shots, p s

namespace Shoots
variable {α β : Type} {p : Shot → Prop}

private theorem ofPlain {r : Run α} (h : Plain r) : Shoots p r := fun w => ⟨[], .none (h w), nofun⟩

theorem bind {r : Run α} {f : α → Run β} (h : Shoots p r) (hf : ∀ x, Shoots p (f x)) :
    Shoots p (r >>= f) := by
  intro w
  obtain ⟨shots, hshots, hp⟩ := h w
  rw [outcome_bind]
  rcases ho : outcome r w with ⟨e | x, w'⟩ <;> rw [ho] at hshots
  · exact ⟨shots, hshots, hp⟩
  · obtain ⟨more, hmore, hp'⟩ := hf x w'
    refine ⟨shots ++ more, hshots.trans hmore, fun s hs => ?_⟩
    exact (List.mem_append.mp hs).elim (hp s) (hp' s)

theorem mono {q : Shot → Prop} {r : Run α} (h : Shoots p r) (hq : ∀ s, p s → q s) :
    Shoots q r := by
  intro w
  obtain ⟨shots, hshots, hp⟩ := h w
  exact ⟨shots, hshots, fun s hs => hq s (hp s hs)⟩

/-- A step takes at most one picture, under the name for its text. -/
theorem takeScreenshot (directory : Path) (name : String) :
    Shoots (fun s => ∃ taken, s = ⟨directory, .step name, taken⟩)
      (takeScreenshot directory name) := by
  let shot (taken : Bool) : Shot := ⟨directory, .step name, taken⟩
  refine bind (ofPlain ((Plain.haveDirectories directory).tryCatch fun e => ?_)) fun _ w => ?_
  · split <;> exact .throw _
  · dsimp only
    rw [outcome_bind, Run.driving, outcome_tryCatch]
    rcases screenshot_trail (directory.join (screenshotFileName name)) w with
      ⟨w', hs, ht⟩ | ⟨e, w', hs, ht⟩ <;> rw [hs]
    · have hn := ht.trans (.notice w' (.screenshotTaken (shot true).path))
      exact ⟨[shot true], hn, fun s h => ⟨true, List.mem_singleton.mp h⟩⟩
    · refine ⟨[shot false], ?_, fun s h => ⟨false, List.mem_singleton.mp h⟩⟩
      cases e <;> exact ht

theorem perform (ctx : Context) (step : Step) :
    Shoots (StepShot ctx [step]) (perform ctx step) := by
  cases step with
  | unknown => exact ofPlain (.throw _)
  | known i =>
    by_cases h : i.action = .text .screenshot
    · cases i with
      | text action s =>
        cases h
        refine (takeScreenshot ctx.screenshots (ctx.vars.substitute s)).mono ?_
        rintro _ ⟨taken, rfl⟩
        exact ⟨s, taken, List.mem_singleton_self _, rfl⟩
      | _ => cases h
    · refine ofPlain (.ofPaged (.performInstruction ctx ?_))
      rwa [Instruction.action_substitute]

theorem runSteps (ctx : Context) (steps : List Step) :
    Shoots (StepShot ctx steps) (runSteps ctx steps) := by
  induction steps with
  | nil => exact ofPlain (.pure ())
  | cons step rest ih =>
    rw [runSteps_cons]
    refine bind ?_ fun _ => ih.mono ?_
    · refine bind (ofPlain (.ofExcept _ _)) fun _ => bind (ofPlain (.say rfl)) fun _ =>
        (perform ctx step).mono ?_
      rintro _ ⟨text, taken, hmem, rfl⟩
      exact ⟨text, taken, List.mem_cons.mpr (.inl (List.mem_singleton.mp hmem)), rfl⟩
    · rintro _ ⟨text, taken, hmem, rfl⟩
      exact ⟨text, taken, List.mem_cons_of_mem _ hmem, rfl⟩

end Shoots

/-- A scenario takes the shots of its steps and then at most one of its failure. -/
theorem runScenario_shots (ctx : Context) (scenario : Scenario) (directory spec : Path)
    (number : Option Nat) (w : World) :
    ∃ shots captures, Pictured w (shots ++ captures) (outcome (runScenario ctx scenario
        (Shot.path ⟨directory, .failure spec scenario.name number, true⟩)) w).2 ∧
      (∀ s ∈ shots, StepShot ctx scenario.steps s) ∧
      ∀ s ∈ captures, ∃ taken, captures = [s] ∧
        s = ⟨directory, .failure spec scenario.name number, taken⟩ := by
  let shot (taken : Bool) : Shot := ⟨directory, .failure spec scenario.name number, taken⟩
  have hsteps : Shoots (StepShot ctx scenario.steps)
      (say (.scenarioStarted scenario.name) >>= fun _ => runSteps ctx scenario.steps) :=
    .bind (.ofPlain (.say rfl)) fun _ => .runSteps ctx _
  obtain ⟨shots, hshots, hstep⟩ := hsteps w
  rw [outcome_runScenario]
  rcases ho : outcome (say (.scenarioStarted scenario.name) >>= fun _ =>
    runSteps ctx scenario.steps) w with ⟨e | _, v⟩ <;> rw [ho] at hshots
  · dsimp only
    split
    · exact ⟨shots, [], by rwa [List.append_nil], hstep, nofun⟩
    · rcases captureFailure_trail (shot true).path v with
        ⟨v', hc, ht⟩ | ⟨r, asked, v', hc, hr, hasked, ht⟩ <;> rw [hc]
      · have hn := ht.trans (.notice v' (.scenarioFailed e.report (some (shot true).path.text)))
        refine ⟨shots, [shot true], hshots.trans hn, hstep, fun s hs => ⟨true, ?_⟩⟩
        rw [List.mem_singleton.mp hs]
        exact ⟨rfl, rfl⟩
      · obtain ⟨captures, hpaths, hnone, hone⟩ : ∃ captures : List Shot,
            captures.map Shot.path = asked ∧ takenOf captures = [] ∧
              ∀ s ∈ captures, captures = [s] ∧ s = shot false := by
          rcases hasked with rfl | rfl
          · exact ⟨[], rfl, rfl, nofun⟩
          · refine ⟨[shot false], rfl, rfl, fun s hs => ?_⟩
            rw [List.mem_singleton.mp hs]
            exact ⟨rfl, rfl⟩
        refine ⟨shots, captures, hshots.trans ?_, hstep, fun s hs => ⟨false, hone s hs⟩⟩
        rw [Pictured, hpaths, hnone]
        rcases r with e' | file
        · exact ht
        · cases file with
          | some file => exact (hr file rfl).elim
          | none =>
            have hn := ht.trans (.notice v' (.scenarioFailed e.report none))
            rwa [List.append_nil] at hn
  · refine ⟨shots, [], ?_, hstep, nofun⟩
    rw [List.append_nil]
    exact hshots.before (.notice v .scenarioPassed)

/-- The path that a scenario is given is that of a shot of its failure. -/
theorem uniquePath_shot {taken : List Path} {spec q : Path} {scenario dirname : String}
    (h : uniquePath? taken (failurePath spec scenario dirname) = some q) :
    ∃ number, q =
      Shot.path ⟨screenshotDirectory spec dirname, .failure spec scenario number, true⟩ := by
  have hfree := uniquePath_isFirstFree h
  by_cases hp : failurePath spec scenario dirname ∈ taken
  · obtain ⟨n, _, rfl, _⟩ := hfree.numbered hp
    refine ⟨some n, ?_⟩
    simp only [numberedPath_failurePath, Shot.path, Origin.fileName, numberSuffix,
      String.append_assoc]
  · refine ⟨none, ?_⟩
    simp only [hfree.plain.mpr hp, failurePath, Shot.path, Origin.fileName, numberSuffix,
      String.append_empty, String.append_assoc]

/-- The shot is one of the run of a spec's scenarios: for a screenshot step, or of a failure. -/
inductive ShotOf (ctx : Context) (spec : Path) (scenarios : List Scenario) : Shot → Prop
  | step {scenario : Scenario} {text : String} {taken : Bool} :
      scenario ∈ scenarios → .known (.text .screenshot text) ∈ scenario.steps →
      ShotOf ctx spec scenarios ⟨ctx.screenshots, .step (ctx.vars.substitute text), taken⟩
  | failure {scenario : Scenario} {number : Option Nat} {taken : Bool} :
      scenario ∈ scenarios →
      ShotOf ctx spec scenarios ⟨ctx.screenshots, .failure spec scenario.name number, taken⟩

theorem ShotOf.mono {ctx : Context} {spec : Path} {scenarios scenarios' : List Scenario} {s : Shot}
    (h : ShotOf ctx spec scenarios s) (hsub : scenarios ⊆ scenarios') :
    ShotOf ctx spec scenarios' s := by
  cases h with
  | step hmem ht => exact .step (hsub hmem) ht
  | failure hmem => exact .failure (hsub hmem)

private theorem StepShot.shotOf {ctx : Context} {spec : Path} {scenario : Scenario}
    {scenarios : List Scenario} {s : Shot} (h : StepShot ctx scenario.steps s)
    (hmem : scenario ∈ scenarios) : ShotOf ctx spec scenarios s := by
  obtain ⟨text, taken, ht, rfl⟩ := h
  exact .step hmem ht

/-- Two shots do not both capture failures for one spec under one path. -/
def Apart (s t : Shot) : Prop :=
  ∀ spec scenario number scenario' number', s.origin = .failure spec scenario number →
    t.origin = .failure spec scenario' number' → s.path ≠ t.path

private theorem Apart.of_step {s t : Shot} (h : s.origin.isFailure = false) : Apart s t := by
  intro spec scenario number scenario' number' hs
  rw [hs] at h
  cases h

/-- The shots of one scenario: those of its steps come first, and at most one is of its failure, at
the path for it. -/
structure ScenarioShots (ctx : Context) (spec : Path) (scenario : Scenario) (q : Path)
    (shots : List Shot) : Prop where
  shotOf : ∀ s ∈ shots, ShotOf ctx spec [scenario] s
  apart : shots.Pairwise Apart
  path : ∀ s ∈ shots, s.origin.isFailure = true → s.path = q

private theorem runScenario_scenarioShots {ctx : Context} {spec q : Path} {scenario : Scenario}
    {number : Option Nat}
    (hq : q = Shot.path ⟨ctx.screenshots, .failure spec scenario.name number, true⟩) (w : World) :
    ∃ shots, Pictured w shots (outcome (runScenario ctx scenario q) w).2 ∧
      ScenarioShots ctx spec scenario q shots := by
  obtain ⟨shots, captures, hshots, hsteps, hcaptures⟩ :=
    runScenario_shots ctx scenario ctx.screenshots spec number w
  rw [← hq] at hshots
  have hstep {s : Shot} (hs : s ∈ shots) : s.origin.isFailure = false := by
    obtain ⟨text, taken, _, rfl⟩ := hsteps s hs
    rfl
  refine ⟨shots ++ captures, hshots, ?_, ?_, ?_⟩
  · intro s hs
    rcases List.mem_append.mp hs with hs | hs
    · exact (hsteps s hs).shotOf (List.mem_singleton_self _)
    · obtain ⟨taken, _, rfl⟩ := hcaptures s hs
      exact .failure (List.mem_singleton_self _)
  · refine List.pairwise_append.mpr ⟨?_, ?_, fun s hs t _ => .of_step (hstep hs)⟩
    · exact List.pairwise_of_forall_mem_list fun s hs t _ => .of_step (hstep hs)
    · cases captures with
      | nil => exact .nil
      | cons s rest =>
        obtain ⟨_, hone, _⟩ := hcaptures s List.mem_cons_self
        rw [hone]
        exact List.pairwise_singleton _ _
  · intro s hs hfailure
    rcases List.mem_append.mp hs with hs | hs
    · rw [hstep hs] at hfailure
      cases hfailure
    · obtain ⟨taken, _, rfl⟩ := hcaptures s hs
      exact hq.symm

/-- The scenarios of a spec take shots of their steps and of their failures, no two of the latter
under one path, nor under one that is taken. -/
theorem runScenarios_shots {ctx : Context} {spec : Path} {dirname : String}
    (hctx : ctx.screenshots = screenshotDirectory spec dirname) (taken : List Path)
    (scenarios : List Scenario) (w : World) :
    ∃ shots,
      Pictured w shots (outcome (runScenarios ctx spec dirname taken scenarios) w).2 ∧
      (∀ s ∈ shots, ShotOf ctx spec scenarios s) ∧ shots.Pairwise Apart ∧
      ∀ s ∈ shots, s.origin.isFailure = true → s.path ∉ taken := by
  induction scenarios generalizing taken w with
  | nil => exact ⟨[], .none (.refl w), nofun, .nil, nofun⟩
  | cons scenario rest ih =>
    obtain ⟨q, hq⟩ := uniquePath_failurePath taken spec scenario.name dirname
    have hfree := (uniquePath_isFirstFree hq).free
    obtain ⟨number, hnumber⟩ := uniquePath_shot hq
    rw [← hctx] at hnumber
    obtain ⟨shots, hshots, hfirst⟩ := runScenario_scenarioShots hnumber w
    have hof : ∀ s ∈ shots, ShotOf ctx spec (scenario :: rest) s := fun s hs =>
      (hfirst.shotOf s hs).mono (List.cons_subset_cons scenario (List.nil_subset rest))
    have hpath : ∀ s ∈ shots, s.origin.isFailure = true → s.path ∉ taken := fun s hs hf =>
      hfirst.path s hs hf ▸ hfree
    simp only [runScenarios, hq, outcome_bind, outcome_modify]
    rcases hr : outcome (runScenario ctx scenario q) w with ⟨e | x, w'⟩ <;> rw [hr] at hshots
    · exact ⟨shots, hshots, hof, hfirst.apart, hpath⟩
    · obtain ⟨more, hmore, hmoreOf, hapart, hmorePath⟩ := ih (q :: taken) (noted w' x)
      have hnoted : Pictured w shots (noted w' x) := hshots.before (.of_eq rfl rfl rfl)
      refine ⟨shots ++ more, hnoted.trans hmore, ?_, ?_, ?_⟩
      · intro s hs
        exact (List.mem_append.mp hs).elim (hof s) fun hs =>
          (hmoreOf s hs).mono (List.subset_cons_self scenario rest)
      · refine List.pairwise_append.mpr ⟨hfirst.apart, hapart, ?_⟩
        intro s hs t ht spec' name number name' number' hso hto heq
        refine hmorePath t ht (by rw [hto]; rfl) ?_
        rw [← heq, hfirst.path s hs (by rw [hso]; rfl)]
        exact List.mem_cons_self
      · intro s hs hf
        rcases List.mem_append.mp hs with hs | hs
        · exact hpath s hs hf
        · exact fun hmem => hmorePath s hs hf (List.mem_cons_of_mem q hmem)

/-- A session takes the shots of its body. -/
private theorem withSession_shots {α : Type} (o : Options) {body : Run α} {p : List Shot → Prop}
    (hnone : p []) (hbody : ∀ v, ∃ shots, Pictured v shots (outcome body v).2 ∧ p shots)
    (w : World) : ∃ shots, Pictured w shots (outcome (withSession o body) w).2 ∧ p shots := by
  rcases withSession_cases o body w with
    ⟨_, _, _, _, opened, hopened, _, _, hr⟩ | ⟨_, _, _, _, hr⟩ <;> rw [hr]
  · obtain ⟨shots, hshots, hp⟩ := hbody opened
    have hstart : Trail w [] [] [] opened := by
      rw [hopened]
      exact .of_eq rfl rfl rfl
    exact ⟨shots, .after hstart (hshots.before (.of_eq rfl rfl rfl)), hp⟩
  · exact ⟨[], .none (.of_eq rfl rfl rfl), hnone⟩

/-- The shots of a spec are those of its scenarios. -/
theorem runSpec_shots (spec : Spec) (path : Path) (o : Options) (w : World) :
    ∃ shots, Pictured w shots (outcome (runSpec spec path o) w).2 ∧
      (∀ s ∈ shots, ShotOf (contextIn spec path o w) path spec.scenarios s) ∧
      shots.Pairwise Apart := by
  have hscenarios (v : World) : ∃ shots,
      Pictured v shots (outcome (scenariosOf spec path o w) v).2 ∧
      (∀ s ∈ shots, ShotOf (contextIn spec path o w) path spec.scenarios s) ∧
      shots.Pairwise Apart := by
    have hctx : (contextIn spec path o w).screenshots =
        screenshotDirectory path o.screenshotsDirname := rfl
    obtain ⟨shots, hshots, hof, hapart, _⟩ := runScenarios_shots hctx [] spec.scenarios v
    exact ⟨shots, hshots, hof, hapart⟩
  obtain ⟨shots, hshots, hof, hapart⟩ :=
    withSession_shots o ⟨nofun, .nil⟩ hscenarios (ready spec path w)
  have hstart : Trail w [] [] [] (ready spec path w) :=
    ⟨⟨[], (List.append_nil _).symm, rfl⟩, .none _, [_], rfl, rfl⟩
  have hend (v : World) : Trail v [] [] [] (concluded spec v).2 :=
    ⟨⟨[], (List.append_nil _).symm, rfl⟩, .none _, [_], rfl, rfl⟩
  have hfault (fault : EngineError) (v : World) : Trail v [] [] [] (givenUp spec fault v) :=
    ⟨⟨[], (List.append_nil _).symm, rfl⟩, .none _, [_], rfl, rfl⟩
  refine ⟨shots, .after hstart ?_, hof, hapart⟩
  rw [outcome_runSpec]
  rcases hr : outcome (withSession o (scenariosOf spec path o w)) (ready spec path w) with
    ⟨e | _, v⟩ <;> rw [hr] at hshots
  · cases e with
    | engine fault => exact (hshots.before (hfault fault v)).before (hend _)
    | _ => exact hshots
  · exact hshots.before (hend v)

def ShotIn (o : Options) (path : Path) (s : Shot) : Prop :=
  ∃ w spec, loadSpec w.files path = .ok spec ∧
    ShotOf (contextIn spec path o w) path spec.scenarios s

theorem ShotIn.directory {o : Options} {path : Path} {s : Shot} (h : ShotIn o path s) :
    s.directory = screenshotDirectory path o.screenshotsDirname := by
  obtain ⟨_, _, _, h⟩ := h
  cases h <;> rfl

theorem ShotIn.spec {o : Options} {path spec : Path} {s : Shot} {scenario : String}
    {number : Option Nat} (h : ShotIn o path s) (hs : s.origin = .failure spec scenario number) :
    spec = path := by
  obtain ⟨_, _, _, h⟩ := h
  cases h <;> cases hs
  rfl

private theorem addSpecFile_shots (o : Options) (s : Summary) (path : Path) (w : World) :
    ∃ shots, Pictured w shots (outcome (addSpecFile o s path) w).2 ∧
      (∀ t ∈ shots, ShotIn o path t) ∧ shots.Pairwise Apart := by
  have hc {shots : List Shot} (r : Except Failure SpecResult × World) (h : Pictured w shots r.2) :
      Pictured w shots (counted s path r).2 := by
    rcases r with ⟨e | _, v⟩
    · cases e with
      | load e =>
        refine h.before ⟨⟨[], (List.append_nil _).symm, rfl⟩, .none _, [_], rfl, rfl⟩
      | _ => exact h
    · exact h
  rw [outcome_addSpecFile, outcome_runSpecFile]
  cases hl : loadSpec w.files path with
  | error e => exact ⟨[], hc _ (.none (.refl w)), nofun, .nil⟩
  | ok spec =>
    obtain ⟨shots, hshots, hof, hapart⟩ := runSpec_shots spec path o w
    exact ⟨shots, hc _ hshots, fun t ht => ⟨w, spec, hl, hof t ht⟩, hapart⟩

/-- The shots of a run are those of its spec files. -/
theorem runSpecs_shots (o : Options) (s : Summary) (paths : List Path) (w : World) :
    ∃ shots, Pictured w shots (outcome (runSpecs o s paths) w).2 ∧
      (∀ t ∈ shots, ∃ path ∈ paths, ShotIn o path t) ∧ (paths.Nodup → shots.Pairwise Apart) := by
  induction paths generalizing s w with
  | nil => exact ⟨[], .none (.refl w), nofun, fun _ => .nil⟩
  | cons path rest ih =>
    obtain ⟨shots, hshots, hof, hapart⟩ := addSpecFile_shots o s path w
    have hfirst : ∀ t ∈ shots, ∃ path' ∈ path :: rest, ShotIn o path' t := fun t ht =>
      ⟨path, List.mem_cons_self, hof t ht⟩
    rw [outcome_runSpecs_cons]
    rcases hr : outcome (addSpecFile o s path) w with ⟨e | s', w'⟩ <;> rw [hr] at hshots
    · exact ⟨shots, hshots, hfirst, fun _ => hapart⟩
    · obtain ⟨more, hmore, hmoreOf, hmoreApart⟩ := ih s' w'
      refine ⟨shots ++ more, hshots.trans hmore, ?_, fun hnodup => ?_⟩
      · intro t ht
        rcases List.mem_append.mp ht with ht | ht
        · exact hfirst t ht
        · obtain ⟨path', hmem, hin⟩ := hmoreOf t ht
          exact ⟨path', List.mem_cons_of_mem path hmem, hin⟩
      · obtain ⟨hnew, hrest⟩ := List.nodup_cons.mp hnodup
        refine List.pairwise_append.mpr ⟨hapart, hmoreApart hrest, ?_⟩
        intro t ht u hu spec name number name' number' hto huo _
        obtain ⟨path', hmem, hin⟩ := hmoreOf u hu
        exact hnew ((hof t ht).spec hto ▸ hin.spec huo ▸ hmem)

end FeatureRun.Run
