import FeatureRun.Proofs.SessionTrace
import Mathlib.Logic.Basic

/-!
Summaries of runs. What is counted over a list of spec files is the sum of what each of them comes
to, so the order of the files does not matter, and only active specs and files that give no spec
decide the exit code. Main statement: `runSpecs_summary`.
-/
namespace FeatureRun.Run
open FeatureRun.Files FeatureRun.Spec
open scoped FeatureRun.CoreInstances

/-- What a spec file comes to: a result, or the reason why it gives no spec. -/
abbrev Report := Except LoadError SpecResult

/-- Spec files that were run one after the other, from one world to another, with what each came
to. A file that gives no spec is announced before the next one is run. -/
inductive Reported (o : Options) : List Path → World → List Report → World → Prop
  | nil (w : World) : Reported o [] w [] w
  | result {path : Path} {rest : List Path} {w w' w'' : World} {r : SpecResult}
      {rs : List Report} :
      outcome (runSpecFile path o) w = (.ok r, w') → Reported o rest w' rs w'' →
      Reported o (path :: rest) w (.ok r :: rs) w''
  | refused {path : Path} {rest : List Path} {w w' w'' : World} {e : LoadError}
      {rs : List Report} :
      outcome (runSpecFile path o) w = (.error (.load e), w') →
      Reported o rest { w' with notices := w'.notices ++ [.loadFailed path e.message] } rs w'' →
      Reported o (path :: rest) w (.error e :: rs) w''

theorem Reported.append {o : Options} {paths paths' : List Path} {w w' w'' : World}
    {rs rs' : List Report} (h : Reported o paths w rs w') (h' : Reported o paths' w' rs' w'') :
    Reported o (paths ++ paths') w (rs ++ rs') w'' := by
  induction h with
  | nil => exact h'
  | result hr _ ih => exact .result hr (ih h')
  | refused hr _ ih => exact .refused hr (ih h')

namespace Summary

def count (s : Summary) : Report → Summary
  | .ok r => s.add r
  | .error _ => s.addLoadFailure

def plus (s t : Summary) : Summary where
  active := s.active.plus t.active.passed t.active.failed
  draft := s.draft.plus t.draft.passed t.draft.failed
  loadErrors := s.loadErrors + t.loadErrors

private theorem empty_plus (s : Summary) : plus {} s = s := by
  simp [plus, Tally.plus]

private theorem plus_assoc (s t u : Summary) : (s.plus t).plus u = s.plus (t.plus u) := by
  simp [plus, Tally.plus, Int.add_assoc]

private theorem plus_comm (s t : Summary) : s.plus t = t.plus s := by
  simp [plus, Tally.plus, Int.add_comm]

private theorem count_eq_plus (s : Summary) (r : Report) : s.count r = s.plus (count {} r) := by
  cases r with
  | error e => simp [count, addLoadFailure, plus, Tally.plus]
  | ok r => cases hs : r.status <;> simp [count, add, hs, plus, Tally.plus]

end Summary

private theorem Reported.counts {o : Options} {paths : List Path} {w w' : World} {rs : List Report}
    (h : Reported o paths w rs w') (s : Summary) :
    outcome (runSpecs o s paths) w = (.ok (rs.foldl Summary.count s), w') := by
  induction h generalizing s with
  | nil => rfl
  | result hr _ ih =>
    rw [outcome_runSpecs_cons, outcome_addSpecFile, hr]
    exact ih (s.add _)
  | refused hr _ ih =>
    rw [outcome_runSpecs_cons, outcome_addSpecFile, hr]
    exact ih s.addLoadFailure

def resultsOf (status : Status) (rs : List Report) : List SpecResult :=
  rs.filterMap fun
    | .ok r => if r.status = status then some r else none
    | .error _ => none

def loadFailures (rs : List Report) : Nat := rs.countP fun r => !r.isOk

private theorem mem_resultsOf {status : Status} {rs : List Report} {r : SpecResult} :
    r ∈ resultsOf status rs ↔ .ok r ∈ rs ∧ r.status = status := by
  simp only [resultsOf, List.mem_filterMap]
  constructor
  · rintro ⟨r' | r', hmem, hr⟩
    · cases hr
    · dsimp only at hr
      split at hr <;> cases hr
      exact ⟨hmem, by assumption⟩
  · rintro ⟨hmem, hs⟩
    exact ⟨.ok r, hmem, if_pos hs⟩

private theorem loadFailures_pos {rs : List Report} : 0 < loadFailures rs ↔ ∃ e, .error e ∈ rs := by
  rw [loadFailures, List.countP_pos_iff]
  constructor
  · rintro ⟨e | r, hmem, hr⟩
    · exact ⟨e, hmem⟩
    · cases hr
  · rintro ⟨e, hmem⟩
    exact ⟨.error e, hmem, rfl⟩

def tallyOf (status : Status) (rs : List Report) : Tally where
  passed := ((resultsOf status rs).map (·.passed)).sum
  failed := ((resultsOf status rs).map (·.failed)).sum

/-- The counts over all that spec files come to. A file that gives no spec is a draft failure. -/
def total (rs : List Report) : Summary where
  active := tallyOf .active rs
  draft := (tallyOf .draft rs).plus 0 (loadFailures rs)
  loadErrors := loadFailures rs

private theorem total_nil : total [] = {} := rfl

private theorem total_cons (r : Report) (rs : List Report) :
    total (r :: rs) = (Summary.count {} r).plus (total rs) := by
  cases r with
  | error e =>
    simp [total, tallyOf, resultsOf, loadFailures, Summary.count, Summary.addLoadFailure,
      Summary.plus, Tally.plus, Except.isOk, Except.toBool]
    omega
  | ok r =>
    cases hs : r.status <;>
      simp [total, tallyOf, resultsOf, loadFailures, Summary.count, Summary.add, Summary.plus,
        Tally.plus, Except.isOk, Except.toBool, hs, Int.add_assoc]

/-- Counting one report after the other adds their total. -/
private theorem foldl_count (rs : List Report) (s : Summary) :
    rs.foldl Summary.count s = s.plus (total rs) := by
  induction rs generalizing s with
  | nil => rw [total_nil, Summary.plus_comm, Summary.empty_plus]; rfl
  | cons r rs ih =>
    calc (r :: rs).foldl Summary.count s
        = (s.count r).plus (total rs) := ih (s.count r)
      _ = (s.plus (Summary.count {} r)).plus (total rs) := by rw [← Summary.count_eq_plus]
      _ = s.plus (total (r :: rs)) := by rw [Summary.plus_assoc, total_cons]

private theorem total_append (rs rs' : List Report) :
    total (rs ++ rs') = (total rs).plus (total rs') := by
  induction rs with
  | nil => rw [total_nil, Summary.empty_plus, List.nil_append]
  | cons r rs ih => rw [List.cons_append, total_cons, ih, total_cons, Summary.plus_assoc]

/-- The total does not depend on the order of the reports. -/
theorem total_perm {rs rs' : List Report} (h : rs.Perm rs') : total rs = total rs' := by
  induction h with
  | nil => rfl
  | cons r _ ih => rw [total_cons, ih, total_cons]
  | swap r r' rs =>
    simp only [total_cons, ← Summary.plus_assoc]
    rw [Summary.plus_comm (Summary.count {} r')]
  | trans _ _ ih ih' => rw [ih, ih']

/-- A run comes to the total over its files. -/
theorem Reported.run {o : Options} {paths : List Path} {w w' : World} {rs : List Report}
    (h : Reported o paths w rs w') : outcome (runSpecs o {} paths) w = (.ok (total rs), w') := by
  rw [h.counts, foldl_count, Summary.empty_plus]

private theorem sum_pos_iff {xs : List Int} (h : ∀ x ∈ xs, 0 ≤ x) :
    0 ≤ xs.sum ∧ (0 < xs.sum ↔ ∃ x ∈ xs, 0 < x) := by
  induction xs with
  | nil => simp
  | cons x xs ih =>
    obtain ⟨hnonneg, hpos⟩ := ih fun y hy => h y (List.mem_cons_of_mem x hy)
    have hx := h x List.mem_cons_self
    simp only [List.sum_cons, List.mem_cons, exists_eq_or_imp, ← hpos]
    omega

/-- A result counts as failed the outcomes that did not pass. -/
theorem ofOutcomes_failed (feature : String) (status : Status) (xs : List Outcome) :
    (SpecResult.ofOutcomes feature status xs).failed = xs.countP fun x => !x.passed := by
  have hl := List.length_eq_countP_add_countP (·.passed) (l := xs)
  simp only [SpecResult.ofOutcomes, Bool.not_eq_true, Bool.decide_eq_false] at hl ⊢
  omega

/-- A result of a spec file counts its own outcomes. -/
theorem runSpecFile_result {path : Path} {o : Options} {w w' : World} {r : SpecResult}
    (h : outcome (runSpecFile path o) w = (.ok r, w')) :
    r.failed = r.outcomes.countP fun x => !x.passed := by
  rw [outcome_runSpecFile] at h
  split at h
  · rename_i spec _
    rw [outcome_runSpec] at h
    split at h <;> cases h <;> exact ofOutcomes_failed _ _ _
  · cases h

theorem Reported.failed {o : Options} {paths : List Path} {w w' : World} {rs : List Report}
    (h : Reported o paths w rs w') {r : SpecResult} (hr : .ok r ∈ rs) :
    r.failed = r.outcomes.countP fun x => !x.passed := by
  induction h with
  | nil => cases hr
  | result hrun _ ih =>
    rcases List.mem_cons.mp hr with hr | hr
    · cases hr
      exact runSpecFile_result hrun
    · exact ih hr
  | refused _ _ ih =>
    rcases List.mem_cons.mp hr with hr | hr
    · cases hr
    · exact ih hr

/-- A scenario of an active spec failed, or a file gave no spec. -/
def Broken (rs : List Report) : Prop :=
  (∃ r ∈ resultsOf .active rs, ∃ x ∈ r.outcomes, x.passed = false) ∨ ∃ e, .error e ∈ rs

private theorem Reported.activeFailed_pos {o : Options} {paths : List Path} {w w' : World}
    {rs : List Report} (h : Reported o paths w rs w') :
    0 < (total rs).active.failed ↔
      ∃ r ∈ resultsOf .active rs, ∃ x ∈ r.outcomes, x.passed = false := by
  have hfailed {r : SpecResult} (hr : r ∈ resultsOf .active rs) := h.failed (mem_resultsOf.mp hr).1
  have hsum : 0 < (total rs).active.failed ↔
      ∃ n ∈ (resultsOf .active rs).map (·.failed), 0 < n := by
    refine (sum_pos_iff fun n hn => ?_).2
    obtain ⟨r, hr, rfl⟩ := List.mem_map.mp hn
    rw [hfailed hr]
    exact Int.natCast_nonneg _
  simp only [hsum, List.mem_map, exists_exists_and_eq_and]
  refine exists_congr fun r => and_congr_right fun hr => ?_
  rw [hfailed hr, Int.natCast_pos, List.countP_pos_iff]
  simp only [Bool.not_eq_true']

theorem Reported.exitCode {o : Options} {paths : List Path} {w w' : World} {rs : List Report}
    (h : Reported o paths w rs w') :
    ((total rs).exitCode = 1 ↔ Broken rs) ∧ ((total rs).exitCode = 0 ↔ ¬ Broken rs) := by
  have hloads : 0 < (total rs).loadErrors ↔ ∃ e, .error e ∈ rs :=
    Int.natCast_pos.trans loadFailures_pos
  rw [Broken, ← h.activeFailed_pos, ← hloads, Summary.exitCode]
  split
  · simp_all
  · split <;> simp_all

/-- A run over files that each give a result or no spec comes to the sums over their results, with
each file that gives no spec counted as a draft failure and as such; its exit code is 1 exactly if a
scenario of an active spec failed or a file gave no spec, whatever became of the drafts. Runs one
after the other add up, and runs in which the files come to the same agree in any order. -/
theorem runSpecs_summary {o : Options} {paths : List Path} {w w' : World} {rs : List Report}
    (h : Reported o paths w rs w') :
    ∃ s, outcome (runSpecs o {} paths) w = (.ok s, w') ∧
      s.active.passed = ((resultsOf .active rs).map (·.passed)).sum ∧
      s.active.failed = ((resultsOf .active rs).map (·.failed)).sum ∧
      s.draft.passed = ((resultsOf .draft rs).map (·.passed)).sum ∧
      s.draft.failed = ((resultsOf .draft rs).map (·.failed)).sum + loadFailures rs ∧
      s.loadErrors = loadFailures rs ∧
      (s.exitCode = 1 ↔ Broken rs) ∧ (s.exitCode = 0 ↔ ¬ Broken rs) ∧
      (∀ paths' rs' w'', Reported o paths' w' rs' w'' →
        ∃ t, outcome (runSpecs o {} paths') w' = (.ok t, w'') ∧
          outcome (runSpecs o {} (paths ++ paths')) w = (.ok (s.plus t), w'')) ∧
      ∀ o' paths' v rs' v', Reported o' paths' v rs' v' → rs.Perm rs' →
        outcome (runSpecs o' {} paths') v = (.ok s, v') := by
  refine ⟨total rs, h.run, rfl, rfl, Int.add_zero _, rfl, rfl, h.exitCode.1, h.exitCode.2, ?_, ?_⟩
  · intro paths' rs' w'' h'
    refine ⟨total rs', h'.run, ?_⟩
    rw [(h.append h').run, total_append]
  · intro o' paths' v rs' v' h' hperm
    rw [h'.run, total_perm hperm]

def cartFiles : Tree where
  nodes := [(["cart.yaml"], .file ("feature: Cart\nstatus: active\n" ++
    "scenarios: [\x7bname: Pay, steps: [\x7bclick: Pay\x7d]\x7d]\n").toUTF8.toList)]
  workingDirectory := []

def cartFilesWorld : World where
  page := {}
  files := cartFiles
  picks := ⟨[0], 0⟩

private theorem of_toOption {ε α : Type} {r : Except ε α} {x : α} (h : r.toOption = some x) :
    r = .ok x := by
  cases r with
  | error e => cases h
  | ok y => exact congrArg _ (Option.some.inj h)

def cartResult : SpecResult :=
  .ofOutcomes "Cart" .active [{
    name := "Pay"
    passed := false
    error := some "click text 'Pay': not found or not actionable (Timeout 7000ms exceeded.)"
    screenshot := some "screenshots/cart-pay.png" }]

theorem runSpecs_summary_cart :
    ∃ s, (outcome (runSpecs {} {} [Path.ofString "none.yaml", Path.ofString "cart.yaml"])
        cartFilesWorld).1 = .ok s ∧
      s.active.failed = 1 ∧ s.draft.failed = 1 ∧ s.loadErrors = 1 ∧ s.exitCode = 1 := by
  have hnone : outcome (runSpecFile (Path.ofString "none.yaml") {}) cartFilesWorld =
      (.error (.load (.missing (Path.ofString "none.yaml"))), cartFilesWorld) := rfl
  have hcart : (outcome (runSpecFile (Path.ofString "cart.yaml") {})
      { cartFilesWorld with notices := [.loadFailed (Path.ofString "none.yaml")
        (LoadError.missing (Path.ofString "none.yaml")).message] }).1 = .ok cartResult :=
    of_toOption (by decide +kernel)
  obtain ⟨s, hrun, _, hactive, _, hdraft, hloads, hexit, _⟩ :=
    runSpecs_summary (.refused hnone (.result (Prod.ext hcart rfl) (.nil _)))
  exact ⟨s, congrArg Prod.fst hrun, hactive, hdraft, hloads,
    hexit.mpr (.inr ⟨_, List.mem_cons_self⟩)⟩

end FeatureRun.Run
