import FeatureRun.Proofs.PageWork

/-!
Runs of scenarios one after the other. Each starts where the one before it has left the page, and
only an interrupt keeps the next one from starting.
-/
namespace FeatureRun.Text

theorem split_of_not_mem {α : Type} [DecidableEq α] {sep : α} {s : List α} (h : sep ∉ s) :
    split sep s = [s] := by
  induction s with
  | nil => rfl
  | cons c s ih =>
    obtain ⟨hc, hs⟩ := not_or.mp (mt List.mem_cons.mpr h)
    rw [split, if_neg fun he => hc he.symm, ih hs]

/-- What follows the last separator of a text is part of the last piece. -/
private theorem split_append {α : Type} [DecidableEq α] (sep : α) (x : List α) :
    ∃ pieces last, ∀ y, sep ∉ y → split sep (x ++ y) = pieces ++ [last ++ y] := by
  induction x with
  | nil => exact ⟨[], [], fun y hy => split_of_not_mem hy⟩
  | cons c x ih =>
    obtain ⟨pieces, last, hx⟩ := ih
    by_cases hc : c = sep
    · refine ⟨[] :: pieces, last, fun y hy => ?_⟩
      rw [List.cons_append, split, if_pos hc, hx y hy]
      rfl
    · cases pieces with
      | nil =>
        refine ⟨[], c :: last, fun y hy => ?_⟩
        rw [List.cons_append, split, if_neg hc, hx y hy]
        rfl
      | cons first rest =>
        refine ⟨(c :: first) :: rest, last, fun y hy => ?_⟩
        rw [List.cons_append, split, if_neg hc, hx y hy]
        rfl

end FeatureRun.Text

namespace FeatureRun.Files.Path
open FeatureRun.Text

/-- What follows without a slash, and is more than points, is part of the last component. -/
theorem ofString_append (x : List Char) :
    ∃ dirs last, ∀ y, '/' ∉ y → (∃ c ∈ y, c ≠ '.') →
      (ofString (String.ofList (x ++ y))).parts = dirs ++ [String.ofList (last ++ y)] := by
  obtain ⟨pieces, last, hx⟩ := split_append '/' x
  refine ⟨(pieces.map String.ofList).filter fun p => p != "" && p != ".", last, ?_⟩
  rintro y hy ⟨c, hc, hmore⟩
  have hmem : c ∈ (String.ofList (last ++ y)).toList := by
    rw [String.toList_ofList]
    exact List.mem_append_right last hc
  have hkept : (String.ofList (last ++ y) != "" && String.ofList (last ++ y) != ".") = true := by
    rw [Bool.and_eq_true, bne_iff_ne, bne_iff_ne]
    constructor <;> intro h <;> rw [h] at hmem
    · cases hmem
    · exact hmore (List.mem_singleton.mp hmem)
  have hsingle : [String.ofList (last ++ y)].filter (fun p => p != "" && p != ".") =
      [String.ofList (last ++ y)] := List.filter_cons_of_pos hkept
  rw [ofString, String.toList_ofList, hx y hy, List.map_append, List.filter_append,
    List.map_singleton, hsingle]

end FeatureRun.Files.Path

namespace FeatureRun.Run
open FeatureRun.Text FeatureRun.Data FeatureRun.Files FeatureRun.Spec FeatureRun.Browser

/-- The path for the screenshot of a failure always has a name. -/
private theorem failurePath_parts (spec : Path) (scenario dirname : String) :
    (failurePath spec scenario dirname).parts ≠ [] := by
  have hs : spec.stem ++ "-" ++ scenarioSlug scenario ++ ".png" =
      String.ofList ((spec.stem ++ "-" ++ scenarioSlug scenario).toList ++ ".png".toList) := by
    apply String.toList_injective
    simp
  obtain ⟨dirs, last, hx⟩ :=
    Path.ofString_append (spec.stem ++ "-" ++ scenarioSlug scenario).toList
  have hp := hx ".png".toList (by decide) ⟨'p', by decide, by decide⟩
  have hne := hp ▸ List.append_ne_nil_of_right_ne_nil dirs (List.cons_ne_nil _ [])
  rw [failurePath, Path.join, Path.append, hs]
  split
  · exact fun h => hne (List.append_eq_nil_iff.mp h).2
  · exact hne

theorem uniquePath_failurePath (taken : List Path) (spec : Path) (scenario dirname : String) :
    ∃ shot, uniquePath? taken (failurePath spec scenario dirname) = some shot := by
  have hp := failurePath_parts spec scenario dirname
  unfold uniquePath?
  split
  · rw [List.isEmpty_eq_false_iff.mpr hp]
    exact ⟨_, rfl⟩
  · exact ⟨_, rfl⟩

/-- Every path is made unique, in its place. -/
theorem uniquePaths_length {taken paths shots : List Path}
    (h : uniquePaths taken paths = .ok shots) : shots.length = paths.length := by
  induction paths generalizing taken shots with
  | nil =>
    cases h
    rfl
  | cons p ps ih =>
    unfold uniquePaths at h
    split at h
    · cases h
    · rename_i q _
      cases hr : uniquePaths (q :: taken) ps with
      | error e => simp [hr, Except.map] at h
      | ok qs =>
        rw [hr] at h
        cases h
        rw [List.length_cons, List.length_cons, ih hr]

/-- A capture of a failure ends by nothing but an interrupt. -/
theorem captureFailure_error {path : Path} {w w' : World} {e : Failure}
    (h : outcome (captureFailure path) w = (.error e, w')) : e.isInterrupt = true := by
  rw [captureFailure, outcome_rescue] at h
  split at h
  · cases h
  · split at h
    · cases h
      assumption
    · simp only [outcome_bind, outcome_say, outcome_pure] at h
      cases h

/-- A scenario passes if its steps do; the first failure among them is its outcome, unless that is
an interrupt or one comes in the capture. -/
theorem outcome_runScenario (ctx : Context) (scenario : Scenario) (shot : Path) (w : World) :
    outcome (runScenario ctx scenario shot) w =
      match outcome (say (.scenarioStarted scenario.name) >>= fun _ =>
        runSteps ctx scenario.steps) w with
      | (.ok _, w') =>
        (.ok { name := scenario.name, passed := true },
          (outcome (say .scenarioPassed) w').2)
      | (.error e, w') =>
        if e.isInterrupt then (.error e, w')
        else match outcome (captureFailure shot) w' with
          | (.ok taken, w'') =>
            (.ok { name := scenario.name, passed := false, error := some e.report,
                   screenshot := taken },
              (outcome (say (.scenarioFailed e.report taken)) w'').2)
          | (.error e', w'') => (.error e', w'') := by
  rw [runScenario, outcome_bind_ok (outcome_say _ _), outcome_rescue,
    outcome_bind_ok (outcome_say _ _), outcome_bind]
  rcases outcome (runSteps ctx scenario.steps) _ with ⟨e | _, w'⟩
  · dsimp only
    split
    · rfl
    · rw [outcome_bind]
      rcases outcome (captureFailure shot) w' with ⟨_ | _, _⟩ <;> rfl
  · rfl

/-- A scenario ends by nothing but an interrupt. -/
theorem runScenario_error {ctx : Context} {scenario : Scenario} {shot : Path} {w w' : World}
    {e : Failure} (h : outcome (runScenario ctx scenario shot) w = (.error e, w')) :
    e.isInterrupt = true := by
  rw [outcome_runScenario] at h
  split at h
  · cases h
  · split at h
    · cases h
      assumption
    · split at h
      · cases h
      · rename_i hc
        cases h
        exact captureFailure_error hc

/-- An outcome bears the name of its scenario. -/
theorem runScenario_name {ctx : Context} {scenario : Scenario} {shot : Path} {w w' : World}
    {x : Outcome} (h : outcome (runScenario ctx scenario shot) w = (.ok x, w')) :
    x.name = scenario.name := by
  rw [outcome_runScenario] at h
  split at h
  · cases h
    rfl
  · split at h
    · cases h
    · split at h
      · cases h
        rfl
      · cases h

def noted (w : World) (x : Outcome) : World := { w with outcomes := w.outcomes ++ [x] }

/-- Scenarios with their screenshot paths that were run one after the other, from one world to
another, with the outcome of each. -/
inductive Ran (ctx : Context) : List (Scenario × Path) → World → List Outcome → World → Prop
  | nil (w : World) : Ran ctx [] w [] w
  | cons {scenario : Scenario} {shot : Path} {rest : List (Scenario × Path)} {w w' w'' : World}
      {x : Outcome} {xs : List Outcome} :
      outcome (runScenario ctx scenario shot) w = (.ok x, w') →
      Ran ctx rest (noted w' x) xs w'' → Ran ctx ((scenario, shot) :: rest) w (x :: xs) w''

/-- Scenarios that were all run, or run up to one that was interrupted. -/
inductive Course (ctx : Context) (scenarios : List (Scenario × Path)) (w : World) :
    Except Failure Unit → World → Prop
  | all {xs : List Outcome} {w' : World} :
      Ran ctx scenarios w xs w' → Course ctx scenarios w (.ok ()) w'
  | upTo {before after : List (Scenario × Path)} {scenario : Scenario} {shot : Path}
      {xs : List Outcome} {e : Failure} {w' w'' : World} :
      scenarios = before ++ (scenario, shot) :: after → Ran ctx before w xs w' →
      outcome (runScenario ctx scenario shot) w' = (.error e, w'') → e.isInterrupt = true →
      Course ctx scenarios w (.error e) w''

theorem Course.cons {ctx : Context} {scenario : Scenario} {shot : Path}
    {rest : List (Scenario × Path)} {w w' w'' : World} {x : Outcome} {r : Except Failure Unit}
    (h : outcome (runScenario ctx scenario shot) w = (.ok x, w'))
    (hc : Course ctx rest (noted w' x) r w'') :
    Course ctx ((scenario, shot) :: rest) w r w'' := by
  cases hc with
  | all hr => exact .all (.cons h hr)
  | upTo hs hr he hi => exact .upTo (by rw [hs, List.cons_append]) (.cons h hr) he hi

/-- The run of a spec's scenarios gives each a screenshot path of its own and runs them all, unless
one is interrupted. -/
theorem runScenarios_course (ctx : Context) (spec : Path) (dirname : String)
    (taken : List Path) (scenarios : List Scenario) (w : World) :
    ∃ shots,
      uniquePaths taken (scenarios.map fun s => failurePath spec s.name dirname) = .ok shots ∧
      Course ctx (scenarios.zip shots) w
        (outcome (runScenarios ctx spec dirname taken scenarios) w).1
        (outcome (runScenarios ctx spec dirname taken scenarios) w).2 := by
  induction scenarios generalizing taken w with
  | nil => exact ⟨[], rfl, .all (.nil w)⟩
  | cons scenario rest ih =>
    obtain ⟨shot, hs⟩ := uniquePath_failurePath taken spec scenario.name dirname
    simp only [runScenarios, hs, List.map_cons, uniquePaths, outcome_bind, outcome_modify]
    rcases hr : outcome (runScenario ctx scenario shot) w with ⟨e | x, w'⟩
    · obtain ⟨shots, hu, _⟩ := ih (shot :: taken) w'
      refine ⟨shot :: shots, by rw [hu]; rfl, ?_⟩
      have hi := runScenario_error hr
      exact .upTo (List.nil_append _).symm (.nil w) hr hi
    · obtain ⟨shots, hu, hc⟩ := ih (shot :: taken) (noted w' x)
      exact ⟨shot :: shots, by rw [hu]; rfl, .cons hr hc⟩

/-- Scenarios run alike in any session. -/
theorem runScenarios_inSession (ctx : Context) (spec : Path) (dirname : String)
    (taken : List Path) (scenarios : List Scenario) (w v : World) :
    outcome (runScenarios ctx spec dirname taken scenarios) (w.inSession v) =
      ((outcome (runScenarios ctx spec dirname taken scenarios) w).1,
        (outcome (runScenarios ctx spec dirname taken scenarios) w).2.inSession v) := by
  induction scenarios generalizing taken w with
  | nil => rfl
  | cons scenario rest ih =>
    unfold runScenarios
    split
    · rfl
    · rename_i shot _
      simp only [outcome_bind, outcome_modify, (PageWork.runScenario ctx scenario shot).inSession]
      rcases outcome (runScenario ctx scenario shot) w with ⟨e | x, w'⟩
      · rfl
      · exact ih (shot :: taken) (noted w' x)

/-- The run of scenarios leaves the session as it was. -/
theorem runScenarios_session (ctx : Context) (spec : Path) (dirname : String)
    (taken : List Path) (scenarios : List Scenario) (w : World) :
    (outcome (runScenarios ctx spec dirname taken scenarios) w).2.inSession w =
      (outcome (runScenarios ctx spec dirname taken scenarios) w).2 :=
  (congrArg Prod.snd (runScenarios_inSession ctx spec dirname taken scenarios w w)).symm

/-- Scenarios all run if the page raises no interrupts. -/
theorem runScenarios_calm (ctx : Context) (spec : Path) (dirname : String)
    (taken : List Path) (scenarios : List Scenario) {w : World} (hw : Calm w.page) :
    (outcome (runScenarios ctx spec dirname taken scenarios) w).1 = .ok () := by
  induction scenarios generalizing taken w with
  | nil => rfl
  | cons scenario rest ih =>
    obtain ⟨shot, hs⟩ := uniquePath_failurePath taken spec scenario.name dirname
    obtain ⟨hi, hc⟩ := (PageWork.runScenario ctx scenario shot).calm hw
    simp only [runScenarios, hs, outcome_bind, outcome_modify]
    rcases hr : outcome (runScenario ctx scenario shot) w with ⟨e | x, w'⟩
    · rw [hr, interrupted, runScenario_error hr] at hi
      cases hi
    · rw [hr] at hc
      exact ih (shot :: taken) hc

/-- The run of scenarios ends by an interrupt exactly if the page raised one in the course of it. -/
theorem runScenarios_interrupted (ctx : Context) (spec : Path) (dirname : String)
    (taken : List Path) (scenarios : List Scenario) (w : World) :
    interruptsLeft (outcome (runScenarios ctx spec dirname taken scenarios) w).2.page.faults =
      interruptsLeft w.page.faults -
        if interrupted (outcome (runScenarios ctx spec dirname taken scenarios) w).1 then 1
        else 0 := by
  induction scenarios generalizing taken w with
  | nil => simp [runScenarios, interrupted]
  | cons scenario rest ih =>
    obtain ⟨shot, hs⟩ := uniquePath_failurePath taken spec scenario.name dirname
    have hi := (PageWork.runScenario ctx scenario shot).interrupted_iff w
    simp only [runScenarios, hs, outcome_bind, outcome_modify]
    rcases hr : outcome (runScenario ctx scenario shot) w with ⟨e | x, w'⟩ <;> rw [hr] at hi
    · exact hi
    · simp only [interrupted, Bool.false_eq_true, if_false, Int.sub_zero] at hi
      rw [← hi]
      exact ih (shot :: taken) (noted w' x)

theorem Ran.names {ctx : Context} {scenarios : List (Scenario × Path)} {w w' : World}
    {xs : List Outcome} (h : Ran ctx scenarios w xs w') :
    xs.map Outcome.name = (scenarios.map Prod.fst).map Scenario.name := by
  induction h with
  | nil => rfl
  | cons hr _ ih => rw [List.map_cons, ih, runScenario_name hr]; rfl

/-- A run of scenarios adds their outcomes to those that are there. -/
theorem Ran.outcomes {ctx : Context} {scenarios : List (Scenario × Path)} {w w' : World}
    {xs : List Outcome} (h : Ran ctx scenarios w xs w') : w'.outcomes = w.outcomes ++ xs := by
  induction h with
  | nil => rw [List.append_nil]
  | @cons scenario shot _ w w' _ _ _ hr _ ih =>
    have hw := (PageWork.runScenario ctx scenario shot).within w w
    rw [World.within_self, hr] at hw
    have ho : w'.outcomes = w.outcomes := congrArg (·.2.outcomes) hw
    rw [ih, noted, ho, List.append_assoc]
    rfl

end FeatureRun.Run
