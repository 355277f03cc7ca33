import FeatureRun.Proofs.PayloadDemands
import FeatureRun.Proofs.SpecRefusal
import Mathlib.Data.List.Forall2

/-!
The checks of a document in their order. Reading fails by the first of them that fails, so that
nothing behind it matters, and gives the scenarios and steps of the document if all pass. Main
statement: `parse_checks`.
-/
namespace FeatureRun.Spec
open FeatureRun.Text FeatureRun.Number FeatureRun.Data
open scoped FeatureRun.CoreInstances

section Parts

structure IsFilled (name : String) (entries : List (Value × Value)) (v : Value) : Prop where
  found : Value.field? name entries = some v
  ne_null : v ≠ .null
  ne_empty : v ≠ .text []

/-- The value names a status, in any case and with blanks around it, or none is given. -/
def NamesStatus (v : Value) : Prop :=
  v = .null ∨ ∃ s, v.display = .ok s ∧ (lower (strip s) = "draft" ∨ lower (strip s) = "active")

/-- A scenario as it is written: a mapping with a name and a list of steps. -/
structure ScenarioParts (raw : Value) where
  entries : List (Value × Value)
  name : Value
  steps : List Value
  mapping : raw.entries? = some entries
  named : IsFilled "name" entries name
  listed : (Value.field? "steps" entries).bind Value.items? = some steps

/-- A spec as it is written: a mapping with a feature and perhaps scenarios, variables and the name
of a status. -/
structure SpecParts (raw : Value) where
  entries : List (Value × Value)
  feature : Value
  scenarios : List Value
  declared : List (Value × Value)
  mapping : raw.entries? = some entries
  featured : IsFilled "feature" entries feature
  listed : ∃ v, Value.field? "scenarios" entries = some v ∧
    (v = .null ∧ scenarios = [] ∨ v.items? = some scenarios)
  vars : (fieldOr "variables" entries).isTruthy = false ∧ declared = [] ∨
    (fieldOr "variables" entries).isTruthy = true ∧
      (fieldOr "variables" entries).entries? = some declared
  status : NamesStatus (fieldOr "status" entries)

def IsScenarioDocument (raw : Value) : Prop := ∃ q : ScenarioParts raw, ∀ t ∈ q.steps, IsStep t

/-- The document is that of a spec: it has the parts of one, and all its scenarios are read. -/
def IsDocument (raw : Value) : Prop :=
  ∃ p : SpecParts raw, ∀ s ∈ p.scenarios, IsScenarioDocument s

/-- A value without a text stands where its text is needed. -/
def HoldsTextless (raw : Value) : Prop :=
  ∃ p : SpecParts raw, p.feature.lacksText = true ∨
    (fieldOr "description" p.entries).lacksText = true ∨
    (fieldOr "base_url" p.entries).lacksText = true ∨ anyLacksText p.declared = true ∨
    ∃ s ∈ p.scenarios, ∃ q : ScenarioParts s, q.name.lacksText = true

def ReadsScenario (raw : Value) (scenario : Scenario) : Prop :=
  ∃ q : ScenarioParts raw, q.name.display = .ok scenario.name ∧
    List.Forall₂ (fun t step => Step.parse t = .ok step) q.steps scenario.steps

/-- The first step of a scenario that is not read is refused. Steps are counted from 1. -/
structure RefusedAt (raw : Value) (name : String) (index : Nat) (e : StepError) where
  parts : ScenarioParts raw
  before : List Value
  step : Value
  after : List Value
  named : parts.name.display = .ok name
  steps : parts.steps = before ++ step :: after
  counted : index = before.length + 1
  accepted : ∀ t ∈ before, IsStep t
  refused : Step.parse step = .error (.refused e)

end Parts

section Checks

inductive Check where
  | mapping (raw : Value)
  | feature (entries : List (Value × Value))
  | scenarios (entries : List (Value × Value))
  | scenarioList (v : Value)
  | vars (v : Value)
  /-- The value has a text. -/
  | text (v : Value)
  | status (v : Value)
  | variableTexts (declared : List (Value × Value))
  | scenarioMapping (index : Nat) (raw : Value)
  | scenarioName (index : Nat) (entries : List (Value × Value))
  | scenarioSteps (index : Nat) (name : String) (entries : List (Value × Value))
  | step (scenario : String) (index : Nat) (raw : Value)

def failureOf {α : Type} : Except SpecFailure α → Option SpecFailure
  | .ok _ => none
  | .error f => some f

def require (holds : Bool) (e : SpecError) : Option SpecFailure :=
  if holds then none else some (.refused e)

def Check.failure? : Check → Option SpecFailure
  | .mapping raw => require raw.entries?.isSome .notMapping
  | .feature entries => require (present? "feature" entries).isSome .noFeature
  | .scenarios entries => require (Value.field? "scenarios" entries).isSome .noScenarios
  | .scenarioList v => failureOf (scenarioItems v)
  | .vars v => failureOf (variableEntries v)
  | .text v => failureOf (textOf v)
  | .status v => failureOf (Status.parse v)
  | .variableTexts declared => failureOf ((Variables.ofEntries declared).mapError .conversion)
  | .scenarioMapping index raw => require raw.entries?.isSome (.scenarioNotMapping index)
  | .scenarioName index entries => require (present? "name" entries).isSome (.noName index)
  | .scenarioSteps index name entries =>
    require ((Value.field? "steps" entries).bind Value.items?).isSome (.noSteps index name)
  | .step scenario index raw =>
    match Step.parse raw with
    | .ok _ => none
    | .error (.refused e) => some (.refused (.step scenario index e))
    | .error (.conversion e) => some (.conversion e)

def stepChecks (scenario : String) : Nat → List Value → List Check
  | _, [] => []
  | index, raw :: rest => .step scenario index raw :: stepChecks scenario (index + 1) rest

/-- The checks of the scenario at `index`. What is not there is passed over: the check before it
fails then. -/
def scenarioChecks (index : Nat) (raw : Value) : List Check :=
  let entries := raw.entries?.getD []
  let name := (textOf (fieldOr "name" entries)).toOption.getD ""
  [.scenarioMapping index raw, .scenarioName index entries, .text (fieldOr "name" entries),
    .scenarioSteps index name entries] ++
    stepChecks name 1 (((Value.field? "steps" entries).bind Value.items?).getD [])

def scenariosChecks : Nat → List Value → List Check
  | _, [] => []
  | index, raw :: rest => scenarioChecks index raw ++ scenariosChecks (index + 1) rest

/-- The checks of a document in the order in which they are made. -/
def checksOf (raw : Value) : List Check :=
  let entries := raw.entries?.getD []
  let scenarios := fieldOr "scenarios" entries
  let vars := fieldOr "variables" entries
  [.mapping raw, .feature entries, .scenarios entries, .scenarioList scenarios,
    .vars vars, .text (fieldOr "feature" entries), .text (fieldOr "description" entries),
    .status (fieldOr "status" entries), .text (fieldOr "base_url" entries),
    .variableTexts ((variableEntries vars).toOption.getD [])] ++
    scenariosChecks 1 ((scenarioItems scenarios).toOption.getD [])

def firstFailure (checks : List Check) : Option SpecFailure := checks.findSome? Check.failure?

end Checks

section Order
variable {α β : Type}

@[simp] theorem firstFailure_nil : firstFailure [] = none := rfl

@[simp] theorem firstFailure_cons (c : Check) (cs : List Check) :
    firstFailure (c :: cs) = c.failure?.or (firstFailure cs) := by
  rw [firstFailure, List.findSome?_cons]
  cases c.failure? <;> rfl

@[simp] theorem firstFailure_append (cs ds : List Check) :
    firstFailure (cs ++ ds) = (firstFailure cs).or (firstFailure ds) :=
  List.findSome?_append

private theorem firstFailure_some_iff {cs : List Check} {f : SpecFailure} :
    firstFailure cs = some f ↔ ∃ before c after, cs = before ++ c :: after ∧
      (∀ d ∈ before, d.failure? = none) ∧ c.failure? = some f := by
  rw [firstFailure, List.findSome?_eq_some_iff]
  constructor
  · rintro ⟨before, c, after, rfl, hc, hbefore⟩
    exact ⟨before, c, after, rfl, hbefore, hc⟩
  · rintro ⟨before, c, after, rfl, hbefore, hc⟩
    exact ⟨before, c, after, rfl, hc, hbefore⟩

private theorem failureOf_none_iff {r : Except SpecFailure α} :
    failureOf r = none ↔ ∃ x, r = .ok x := by
  cases r with
  | ok x => exact iff_of_true rfl ⟨x, rfl⟩
  | error f =>
    refine iff_of_false nofun ?_
    rintro ⟨x, hx⟩
    cases hx

private theorem failureOf_some_iff {r : Except SpecFailure α} {f : SpecFailure} :
    failureOf r = some f ↔ r = .error f := by
  cases r with
  | ok x => exact iff_of_false nofun nofun
  | error g => simp [failureOf]

/-- What is read after a part fails where the part fails, or else where the rest does. -/
private theorem failureOf_bind {r : Except SpecFailure α} {f : α → Except SpecFailure β}
    {later : Option SpecFailure} (hf : ∀ x, r = .ok x → failureOf (f x) = later) :
    failureOf (r >>= f) = (failureOf r).or later := by
  cases r with
  | ok x => exact hf x rfl
  | error e => rfl

private theorem failureOf_build {r : Except SpecFailure α} {g : α → β} :
    failureOf (r >>= fun x => .ok (g x)) = failureOf r := by
  cases r <;> rfl

private theorem parseSteps_failure (scenario : String) (index : Nat) (xs : List Value) :
    failureOf (parseSteps scenario index xs) = firstFailure (stepChecks scenario index xs) := by
  induction xs generalizing index with
  | nil => rfl
  | cons raw rest ih =>
    rw [stepChecks, firstFailure_cons, ← ih, parseSteps, Check.failure?]
    cases Step.parse raw with
    | ok step => exact failureOf_build
    | error f => cases f <;> rfl

private theorem present?_iff {name : String} {entries : List (Value × Value)} {v : Value} :
    present? name entries = some v ↔ IsFilled name entries v := by
  have hfilled : IsFilled name entries v ↔
      Value.field? name entries = some v ∧ v ≠ .null ∧ v ≠ .text [] :=
    ⟨fun h => ⟨h.found, h.ne_null, h.ne_empty⟩, fun h => ⟨h.1, h.2.1, h.2.2⟩⟩
  rw [hfilled, present?]
  cases Value.field? name entries with
  | none => simp
  | some u =>
    cases u with
    | null =>
      refine iff_of_false (Option.some_ne_none v).symm ?_
      rintro ⟨h, hnull, _⟩
      exact hnull (Option.some.inj h).symm
    | text s =>
      cases s with
      | nil =>
        refine iff_of_false (Option.some_ne_none v).symm ?_
        rintro ⟨h, _, hempty⟩
        exact hempty (Option.some.inj h).symm
      | cons p s =>
        refine ⟨fun h => ⟨h, ?_⟩, And.left⟩
        cases h
        simp
    | _ =>
      refine ⟨fun h => ⟨h, ?_⟩, And.left⟩
      cases h
      simp

private theorem fieldOr_of_filled {name : String} {entries : List (Value × Value)} {v : Value}
    (h : IsFilled name entries v) : fieldOr name entries = v := by
  rw [fieldOr, h.found, Option.getD_some]

private theorem scenario_failure (index : Nat) (raw : Value) :
    failureOf (Scenario.parse index raw) = firstFailure (scenarioChecks index raw) := by
  unfold Scenario.parse scenarioChecks
  cases he : raw.entries? with
  | none => simp [he, Check.failure?, require, failureOf]
  | some entries =>
    cases hn : present? "name" entries with
    | none => simp [he, hn, Check.failure?, require, failureOf]
    | some v =>
      simp only [Option.getD_some, fieldOr_of_filled (present?_iff.mp hn), firstFailure_append,
        firstFailure_cons, Check.failure?, he, hn, require, Option.isSome_some, if_true,
        Option.none_or, firstFailure_nil, Option.or_none, Option.or_assoc]
      refine failureOf_bind fun name hname => ?_
      rw [hname]
      cases hs : (Value.field? "steps" entries).bind Value.items? with
      | none => rfl
      | some steps =>
        exact failureOf_build.trans (parseSteps_failure name 1 steps)

private theorem parseScenarios_failure (index : Nat) (xs : List Value) :
    failureOf (parseScenarios index xs) = firstFailure (scenariosChecks index xs) := by
  induction xs generalizing index with
  | nil => rfl
  | cons raw rest ih =>
    rw [scenariosChecks, firstFailure_append, ← ih, ← scenario_failure, parseScenarios]
    exact failureOf_bind fun _ _ => failureOf_build

private theorem Converts.passes_iff {lacks : Bool} {r : Except SpecFailure α}
    (h : Converts lacks r) :
    failureOf r = none ↔ lacks = false := by
  cases h with
  | there x => exact iff_of_true rfl rfl
  | fails c => exact iff_of_false nofun nofun

private theorem failureOf_map {r : Except SpecFailure α} {g : α → β} :
    failureOf (r.map g) = failureOf r := by
  cases r <;> rfl

private theorem description_failure (v : Value) :
    failureOf (parseDescription v) = failureOf (textOf v) := by
  unfold parseDescription
  split
  · rfl
  · exact failureOf_map

private theorem baseUrl_failure (v : Value) :
    failureOf (parseBaseUrl v) = failureOf (textOf v) := by
  unfold parseBaseUrl
  split
  · exact failureOf_map
  · rename_i ht
    have hthere := Value.lacksText_of_falsy (Bool.eq_false_iff.mpr ht)
    exact ((textOf_converts v).passes_iff.mpr hthere).symm

/-- A document fails by the first of its checks that fails. -/
theorem parse_failure (raw : Value) : failureOf (parse raw) = firstFailure (checksOf raw) := by
  unfold parse checksOf
  cases he : raw.entries? with
  | none => simp [he, Check.failure?, require, failureOf]
  | some entries =>
    cases hf : present? "feature" entries with
    | none => simp [he, hf, Check.failure?, require, failureOf]
    | some feature =>
      cases hs : Value.field? "scenarios" entries with
      | none => simp [he, hf, hs, Check.failure?, require, failureOf]
      | some scenarios =>
        have hscenarios : fieldOr "scenarios" entries = scenarios := by
          rw [fieldOr, hs, Option.getD_some]
        simp only [Option.getD_some, hscenarios, fieldOr_of_filled (present?_iff.mp hf),
          firstFailure_append, firstFailure_cons, Check.failure?, he, hf, hs, require,
          Option.isSome_some, if_true, Option.none_or, firstFailure_nil, Option.or_none,
          Option.or_assoc]
        refine failureOf_bind fun items hitems => ?_
        refine failureOf_bind fun declared hdeclared => ?_
        rw [hitems, hdeclared, ← description_failure (fieldOr "description" entries),
          ← baseUrl_failure (fieldOr "base_url" entries)]
        iterate 5 refine failureOf_bind fun _ _ => ?_
        exact failureOf_build.trans (parseScenarios_failure 1 items)

private theorem parse_error_iff {raw : Value} {f : SpecFailure} :
    parse raw = .error f ↔ ∃ before c after, checksOf raw = before ++ c :: after ∧
      (∀ d ∈ before, d.failure? = none) ∧ c.failure? = some f := by
  rw [← failureOf_some_iff, parse_failure, firstFailure_some_iff]

private theorem parse_ok_iff {raw : Value} :
    (∃ spec, parse raw = .ok spec) ↔ firstFailure (checksOf raw) = none := by
  rw [← parse_failure, failureOf_none_iff]

end Order

section Success

private theorem require_none_iff {holds : Bool} {e : SpecError} :
    require holds e = none ↔ holds = true := by
  cases holds <;> simp [require]

private theorem text_passes_iff {v : Value} : failureOf (textOf v) = none ↔ v.lacksText = false :=
  (textOf_converts v).passes_iff

private theorem vars_pass_iff {declared : List (Value × Value)} :
    failureOf ((Variables.ofEntries declared).mapError SpecFailure.conversion) = none ↔
      anyLacksText declared = false :=
  (variables_converts declared).passes_iff

private theorem named?_iff {name : String} :
    (∃ status, Status.named? name = some status) ↔ name = "draft" ∨ name = "active" := by
  unfold Status.named?
  split
  · exact iff_of_true ⟨_, rfl⟩ (.inl ‹_›)
  · split
    · exact iff_of_true ⟨_, rfl⟩ (.inr ‹_›)
    · rename_i hdraft hactive
      refine iff_of_false nofun ?_
      rintro (h | h)
      · exact hdraft h
      · exact hactive h

private theorem ofName_passes_iff {v : Value} :
    failureOf (Status.ofName v) = none ↔
      ∃ s, v.display = .ok s ∧ (lower (strip s) = "draft" ∨ lower (strip s) = "active") := by
  unfold Status.ofName textOf
  cases v.display with
  | error e =>
    refine iff_of_false nofun ?_
    rintro ⟨s, hs, _⟩
    cases hs
  | ok s =>
    simp only [ok_mapError, ok_bind, Except.ok.injEq, exists_eq_left', ← named?_iff]
    cases Status.named? (lower (strip s)) with
    | some status => exact iff_of_true rfl ⟨status, rfl⟩
    | none =>
      refine iff_of_false ?_ nofun
      rw [failureOf_none_iff]
      rintro ⟨status, h⟩
      obtain ⟨shown, _, h⟩ := bind_ok h
      cases h

private theorem status_passes_iff {v : Value} :
    failureOf (Status.parse v) = none ↔ NamesStatus v := by
  unfold Status.parse NamesStatus
  split
  · exact iff_of_true rfl (.inl rfl)
  · rename_i hv
    rw [ofName_passes_iff, or_iff_right hv]

private theorem step_passes_iff {scenario : String} {index : Nat} {raw : Value} :
    (Check.step scenario index raw).failure? = none ↔ IsStep raw := by
  rw [Check.failure?, IsStep]
  cases Step.parse raw with
  | ok step => exact iff_of_true rfl ⟨step, rfl⟩
  | error f => cases f <;> exact iff_of_false nofun nofun

private theorem scenarioItems_iff {v : Value} {scenarios : List Value} :
    scenarioItems v = .ok scenarios ↔ v = .null ∧ scenarios = [] ∨ v.items? = some scenarios := by
  unfold scenarioItems
  split
  · have hnone : Value.null.items? = none := rfl
    rw [hnone]
    simp [eq_comm]
  · rename_i hv
    have hnull : v ≠ .null := hv
    cases v.items? with
    | some xs => simp [hnull]
    | none => simp [hnull]

private theorem variableEntries_iff {v : Value} {declared : List (Value × Value)} :
    variableEntries v = .ok declared ↔ v.isTruthy = false ∧ declared = [] ∨
      v.isTruthy = true ∧ v.entries? = some declared := by
  unfold variableEntries
  cases v.isTruthy with
  | false => simp [eq_comm]
  | true => cases v.entries? <;> simp

private theorem stepChecks_pass_iff {scenario : String} {index : Nat} {xs : List Value} :
    firstFailure (stepChecks scenario index xs) = none ↔ ∀ t ∈ xs, IsStep t := by
  induction xs generalizing index with
  | nil => simp [stepChecks]
  | cons raw rest ih =>
    rw [stepChecks, firstFailure_cons, Option.or_eq_none_iff, step_passes_iff, ih,
      List.forall_mem_cons]

private theorem scenarioChecks_pass_iff {index : Nat} {raw : Value} :
    firstFailure (scenarioChecks index raw) = none ↔
      ∃ q : ScenarioParts raw, q.name.lacksText = false ∧ ∀ t ∈ q.steps, IsStep t := by
  rw [scenarioChecks]
  simp only [firstFailure_append, firstFailure_cons, firstFailure_nil, Option.or_none,
    Option.or_eq_none_iff, Check.failure?, require_none_iff, text_passes_iff, stepChecks_pass_iff]
  constructor
  · rintro ⟨⟨hmapping, hname, hshort, hsteps⟩, hall⟩
    obtain ⟨entries, hentries⟩ := Option.isSome_iff_exists.mp hmapping
    rw [hentries, Option.getD_some] at hname hshort hsteps hall
    obtain ⟨name, hpresent⟩ := Option.isSome_iff_exists.mp hname
    obtain ⟨steps, hlisted⟩ := Option.isSome_iff_exists.mp hsteps
    have hfilled := present?_iff.mp hpresent
    rw [fieldOr_of_filled hfilled] at hshort
    rw [hlisted] at hall
    exact ⟨⟨entries, name, steps, hentries, hfilled, hlisted⟩, hshort, hall⟩
  · rintro ⟨q, hshort, hall⟩
    rw [q.mapping, Option.getD_some, present?_iff.mpr q.named, q.listed, fieldOr_of_filled q.named]
    exact ⟨⟨rfl, rfl, hshort, rfl⟩, hall⟩

private theorem scenariosChecks_pass_iff {index : Nat} {xs : List Value} :
    firstFailure (scenariosChecks index xs) = none ↔ ∀ s ∈ xs,
      ∃ q : ScenarioParts s, q.name.lacksText = false ∧ ∀ t ∈ q.steps, IsStep t := by
  induction xs generalizing index with
  | nil => simp [scenariosChecks]
  | cons raw rest ih =>
    rw [scenariosChecks, firstFailure_append, Option.or_eq_none_iff, scenarioChecks_pass_iff, ih,
      List.forall_mem_cons]

/-- A value has the parts of a scenario in one way. -/
instance (raw : Value) : Subsingleton (ScenarioParts raw) where
  allEq := by
    rintro ⟨entries, name, steps, hmapping, hnamed, hlisted⟩
      ⟨entries', name', steps', hmapping', hnamed', hlisted'⟩
    obtain rfl : entries = entries' := Option.some.inj (hmapping.symm.trans hmapping')
    obtain rfl : name = name' := Option.some.inj (hnamed.found.symm.trans hnamed'.found)
    obtain rfl : steps = steps' := Option.some.inj (hlisted.symm.trans hlisted')
    rfl

/-- A value has the parts of a spec in one way. -/
instance (raw : Value) : Subsingleton (SpecParts raw) where
  allEq := by
    rintro ⟨entries, feature, scenarios, declared, hmapping, hfeatured, ⟨v, hv, hlisted⟩, hvars, _⟩
      ⟨entries', feature', scenarios', declared', hmapping', hfeatured', ⟨v', hv', hlisted'⟩,
        hvars', _⟩
    obtain rfl : entries = entries' := Option.some.inj (hmapping.symm.trans hmapping')
    obtain rfl : feature = feature' := Option.some.inj (hfeatured.found.symm.trans hfeatured'.found)
    obtain rfl : v = v' := Option.some.inj (hv.symm.trans hv')
    rw [← scenarioItems_iff] at hlisted hlisted'
    obtain rfl : scenarios = scenarios' := Except.ok.inj (hlisted.symm.trans hlisted')
    rw [← variableEntries_iff] at hvars hvars'
    obtain rfl : declared = declared' := Except.ok.inj (hvars.symm.trans hvars')
    rfl

private theorem checks_pass_iff {raw : Value} :
    firstFailure (checksOf raw) = none ↔ IsDocument raw ∧ ¬ HoldsTextless raw := by
  rw [checksOf]
  simp only [firstFailure_append, firstFailure_cons, firstFailure_nil, Option.or_none,
    Option.or_eq_none_iff, Check.failure?, require_none_iff, text_passes_iff, vars_pass_iff,
    status_passes_iff, scenariosChecks_pass_iff]
  constructor
  · rintro ⟨⟨hmapping, hfeature, hscenarios, hitems, hdeclared, hrest⟩, hall⟩
    obtain ⟨entries, hentries⟩ := Option.isSome_iff_exists.mp hmapping
    obtain ⟨items, hitems⟩ := failureOf_none_iff.mp hitems
    obtain ⟨declared, hdeclared⟩ := failureOf_none_iff.mp hdeclared
    rw [hitems] at hall
    rw [hdeclared] at hrest
    rw [hentries, Option.getD_some] at hfeature hscenarios hitems hdeclared hrest
    obtain ⟨feature, hpresent⟩ := Option.isSome_iff_exists.mp hfeature
    obtain ⟨v, hv⟩ := Option.isSome_iff_exists.mp hscenarios
    have hfilled := present?_iff.mp hpresent
    rw [fieldOr, hv, Option.getD_some] at hitems
    rw [fieldOr_of_filled hfilled] at hrest
    obtain ⟨hshort, hdescription, hstatus, hbaseUrl, hvars⟩ := hrest
    let p : SpecParts raw := ⟨entries, feature, items, declared, hentries, hfilled,
      ⟨v, hv, scenarioItems_iff.mp hitems⟩, variableEntries_iff.mp hdeclared, hstatus⟩
    refine ⟨⟨p, fun s hs => ?_⟩, ?_⟩
    · obtain ⟨q, _, hsteps⟩ := hall s hs
      exact ⟨q, hsteps⟩
    · rintro ⟨p', hlong⟩
      obtain rfl : p' = p := Subsingleton.elim _ _
      rcases hlong with h | h | h | h | ⟨s, hs, q, h⟩
      · exact Bool.false_ne_true (hshort.symm.trans h)
      · exact Bool.false_ne_true (hdescription.symm.trans h)
      · exact Bool.false_ne_true (hbaseUrl.symm.trans h)
      · exact Bool.false_ne_true (hvars.symm.trans h)
      · obtain ⟨q', hq, _⟩ := hall s hs
        obtain rfl : q' = q := Subsingleton.elim _ _
        exact Bool.false_ne_true (hq.symm.trans h)
  · rintro ⟨⟨p, hall⟩, hlong⟩
    obtain ⟨v, hv, hitems⟩ := p.listed
    have hscenarios : fieldOr "scenarios" p.entries = v := by rw [fieldOr, hv, Option.getD_some]
    rw [p.mapping, Option.getD_some, present?_iff.mpr p.featured, fieldOr_of_filled p.featured, hv,
      hscenarios, scenarioItems_iff.mpr hitems, variableEntries_iff.mpr p.vars]
    refine ⟨⟨rfl, rfl, rfl, rfl, rfl, ?_, ?_, p.status, ?_, ?_⟩, fun s hs => ?_⟩
    · exact (Bool.not_eq_true _).mp fun h => hlong ⟨p, .inl h⟩
    · exact (Bool.not_eq_true _).mp fun h => hlong ⟨p, .inr (.inl h)⟩
    · exact (Bool.not_eq_true _).mp fun h => hlong ⟨p, .inr (.inr (.inl h))⟩
    · exact (Bool.not_eq_true _).mp fun h => hlong ⟨p, .inr (.inr (.inr (.inl h)))⟩
    · obtain ⟨q, hsteps⟩ := hall s hs
      exact ⟨q, (Bool.not_eq_true _).mp fun h =>
        hlong ⟨p, .inr (.inr (.inr (.inr ⟨s, hs, q, h⟩)))⟩, hsteps⟩

private theorem parseSteps_reads {scenario : String} {index : Nat} {xs : List Value}
    {steps : List Step}
    (h : parseSteps scenario index xs = .ok steps) :
    List.Forall₂ (fun t step => Step.parse t = .ok step) xs steps := by
  induction xs generalizing index steps with
  | nil =>
    cases h
    exact .nil
  | cons raw rest ih =>
    rw [parseSteps] at h
    cases hraw : Step.parse raw with
    | ok step =>
      rw [hraw] at h
      obtain ⟨others, hothers, h⟩ := bind_ok h
      cases h
      exact .cons hraw (ih hothers)
    | error f =>
      rw [hraw] at h
      cases f <;> cases h

private theorem scenario_reads {index : Nat} {raw : Value} {scenario : Scenario}
    (h : Scenario.parse index raw = .ok scenario) : ReadsScenario raw scenario := by
  unfold Scenario.parse at h
  split at h
  · cases h
  · rename_i entries hentries
    split at h
    · cases h
    · rename_i name hpresent
      obtain ⟨shown, hname, h⟩ := bind_ok h
      split at h
      · cases h
      · rename_i steps hlisted
        obtain ⟨read, hread, h⟩ := bind_ok h
        cases h
        exact ⟨⟨entries, name, steps, hentries, present?_iff.mp hpresent, hlisted⟩,
          mapError_ok hname, parseSteps_reads hread⟩

private theorem parseScenarios_reads {index : Nat} {xs : List Value} {scenarios : List Scenario}
    (h : parseScenarios index xs = .ok scenarios) : List.Forall₂ ReadsScenario xs scenarios := by
  induction xs generalizing index scenarios with
  | nil =>
    cases h
    exact .nil
  | cons raw rest ih =>
    obtain ⟨scenario, hscenario, h⟩ := bind_ok h
    obtain ⟨others, hothers, h⟩ := bind_ok h
    cases h
    exact .cons (scenario_reads hscenario) (ih hothers)

/-- What is read has the scenarios of the document with their steps, in their order. -/
theorem parse_reads {raw : Value} {spec : Spec} (h : parse raw = .ok spec) :
    ∃ p : SpecParts raw, List.Forall₂ ReadsScenario p.scenarios spec.scenarios := by
  obtain ⟨p, _⟩ := (checks_pass_iff.mp (parse_ok_iff.mp ⟨spec, h⟩)).1
  refine ⟨p, ?_⟩
  obtain ⟨v, hv, hitems⟩ := p.listed
  unfold parse at h
  simp only [p.mapping, present?_iff.mpr p.featured, hv, scenarioItems_iff.mpr hitems,
    variableEntries_iff.mpr p.vars, ok_bind] at h
  obtain ⟨_, _, h⟩ := bind_ok h
  obtain ⟨_, _, h⟩ := bind_ok h
  obtain ⟨_, _, h⟩ := bind_ok h
  obtain ⟨_, _, h⟩ := bind_ok h
  obtain ⟨_, _, h⟩ := bind_ok h
  obtain ⟨scenarios, hscenarios, h⟩ := bind_ok h
  cases h
  exact parseScenarios_reads hscenarios

private theorem bind_error {r : Except SpecFailure α} {f : α → Except SpecFailure β}
    {g : SpecFailure}
    (h : (r >>= f) = .error g) : r = .error g ∨ ∃ x, r = .ok x ∧ f x = .error g := by
  cases r with
  | ok x => exact .inr ⟨x, rfl, h⟩
  | error g' =>
    cases h
    exact .inl rfl

/-- What has a text, or lacks one, is not refused. -/
private theorem Converts.not_refused {lacks : Bool} {r : Except SpecFailure α}
    (h : Converts lacks r)
    {e : SpecError} : r ≠ .error (.refused e) := by
  cases h <;> nofun

private theorem parseSteps_refused {scenario : String} {index : Nat} {xs : List Value}
    {e : SpecError}
    (h : parseSteps scenario index xs = .error (.refused e)) :
    ∃ before t after e', xs = before ++ t :: after ∧ (∀ u ∈ before, IsStep u) ∧
      Step.parse t = .error (.refused e') ∧ e = .step scenario (index + before.length) e' := by
  induction xs generalizing index with
  | nil => cases h
  | cons raw rest ih =>
    rw [parseSteps] at h
    cases hraw : Step.parse raw with
    | ok step =>
      rw [hraw] at h
      obtain h | ⟨_, _, h⟩ := bind_error h
      · obtain ⟨before, t, after, e', rfl, hbefore, ht, he⟩ := ih h
        refine ⟨raw :: before, t, after, e', rfl, ?_, ht, ?_⟩
        · rintro u (_ | ⟨_, hu⟩)
          · exact ⟨step, hraw⟩
          · exact hbefore u hu
        · rw [he, List.length_cons, Nat.add_right_comm, Nat.add_assoc]
      · cases h
    | error f =>
      rw [hraw] at h
      cases f with
      | refused e' =>
        cases h
        exact ⟨[], raw, rest, e', rfl, List.forall_mem_nil _, hraw, rfl⟩
      | conversion c => cases h

private theorem scenario_refused {i index : Nat} {raw : Value} {name : String} {e : StepError}
    (h : Scenario.parse i raw = .error (.refused (.step name index e))) :
    Nonempty (RefusedAt raw name index e) := by
  unfold Scenario.parse at h
  split at h
  · cases h
  · rename_i entries hentries
    split at h
    · cases h
    · rename_i v hpresent
      obtain h | ⟨shown, hname, h⟩ := bind_error h
      · exact absurd h (textOf_converts v).not_refused
      · split at h
        · cases h
        · rename_i steps hlisted
          obtain h | ⟨_, _, h⟩ := bind_error h
          · obtain ⟨before, t, after, e', hsteps, hbefore, ht, he⟩ := parseSteps_refused h
            cases he
            exact ⟨⟨⟨entries, v, steps, hentries, present?_iff.mp hpresent, hlisted⟩, before, t,
              after, mapError_ok hname, hsteps, Nat.add_comm 1 _, hbefore, ht⟩⟩
          · cases h

private theorem isScenarioDocument_of_ok {i : Nat} {raw : Value} {scenario : Scenario}
    (h : Scenario.parse i raw = .ok scenario) : IsScenarioDocument raw := by
  have hpass := (scenario_failure i raw).symm.trans (failureOf_none_iff.mpr ⟨scenario, h⟩)
  obtain ⟨q, _, hsteps⟩ := scenarioChecks_pass_iff.mp hpass
  exact ⟨q, hsteps⟩

private theorem parseScenarios_refused {i index : Nat} {xs : List Value} {name : String}
    {e : StepError}
    (h : parseScenarios i xs = .error (.refused (.step name index e))) :
    ∃ before s after, xs = before ++ s :: after ∧ (∀ b ∈ before, IsScenarioDocument b) ∧
      Nonempty (RefusedAt s name index e) := by
  induction xs generalizing i with
  | nil => cases h
  | cons raw rest ih =>
    obtain h | ⟨scenario, hraw, h⟩ := bind_error h
    · exact ⟨[], raw, rest, rfl, List.forall_mem_nil _, scenario_refused h⟩
    · obtain h | ⟨_, _, h⟩ := bind_error h
      · obtain ⟨before, s, after, rfl, hbefore, hs⟩ := ih h
        refine ⟨raw :: before, s, after, rfl, ?_, hs⟩
        rintro b (_ | ⟨_, hb⟩)
        · exact isScenarioDocument_of_ok hraw
        · exact hbefore b hb
      · cases h

private theorem message_place (e : StepError) (place : String) :
    ∃ rest, e.message place = place ++ rest := by
  cases e <;> simp only [StepError.message, String.append_assoc] <;> exact ⟨_, rfl⟩

private theorem scenarioItems_error {v : Value} {f : SpecFailure} (h : scenarioItems v = .error f) :
    f = .refused .scenariosNotList := by
  unfold scenarioItems at h
  split at h
  · cases h
  · split at h
    · cases h
    · exact (Except.error.inj h).symm

private theorem variableEntries_error {v : Value} {f : SpecFailure}
    (h : variableEntries v = .error f) :
    f = .refused .variablesNotMapping := by
  unfold variableEntries at h
  split at h
  · split at h
    · cases h
    · exact (Except.error.inj h).symm
  · cases h

private theorem status_error {v : Value} {e : SpecError}
    (h : Status.parse v = .error (.refused e)) :
    ∃ shown, e = .unknownStatus shown := by
  unfold Status.parse at h
  split at h
  · cases h
  · unfold Status.ofName at h
    obtain h | ⟨s, _, h⟩ := bind_error h
    · exact absurd h (textOf_converts v).not_refused
    · split at h
      · cases h
      · obtain h | ⟨shown, _, h⟩ := bind_error h
        · exact absurd h (Converts.of_text v.shown_unless).not_refused
        · cases h
          exact ⟨shown, rfl⟩

/-- A refused step is the first that is not read, in the first scenario that is not read. -/
theorem parse_step_refused {raw : Value} {name : String} {index : Nat} {e : StepError}
    (h : parse raw = .error (.refused (.step name index e))) :
    ∃ p : SpecParts raw, ∃ before s after, p.scenarios = before ++ s :: after ∧
      (∀ b ∈ before, IsScenarioDocument b) ∧ Nonempty (RefusedAt s name index e) := by
  unfold parse at h
  split at h
  · cases h
  · rename_i entries hentries
    split at h
    · cases h
    · cases h
    · rename_i feature v hpresent hv
      obtain h | ⟨scenarios, hscenarios, h⟩ := bind_error h
      · cases scenarioItems_error h
      obtain h | ⟨declared, hdeclared, h⟩ := bind_error h
      · cases variableEntries_error h
      obtain h | ⟨_, _, h⟩ := bind_error h
      · exact absurd h (textOf_converts _).not_refused
      obtain h | ⟨_, _, h⟩ := bind_error h
      · exact absurd h (parseDescription_converts _).not_refused
      obtain h | ⟨_, hstatus, h⟩ := bind_error h
      · obtain ⟨_, hstatus⟩ := status_error h
        cases hstatus
      obtain h | ⟨_, _, h⟩ := bind_error h
      · exact absurd h (parseBaseUrl_converts _).not_refused
      obtain h | ⟨_, _, h⟩ := bind_error h
      · exact absurd h (variables_converts _).not_refused
      obtain h | ⟨_, _, h⟩ := bind_error h
      · exact ⟨⟨entries, feature, scenarios, declared, hentries, present?_iff.mp hpresent,
          ⟨v, hv, scenarioItems_iff.mp hscenarios⟩, variableEntries_iff.mp hdeclared,
          status_passes_iff.mp (failureOf_none_iff.mpr ⟨_, hstatus⟩)⟩, parseScenarios_refused h⟩
      · cases h

/-- A document is read exactly if it is that of a spec and each value of which the text is needed has
one; what is read has its scenarios and steps. If it is not, its failure is that of the
first check that fails, and a refused step is reported by its place: it is the first of its scenario
that is not read, and no scenario before fails. -/
theorem parse_checks (raw : Value) :
    ((∃ spec, parse raw = .ok spec) ↔ IsDocument raw ∧ ¬ HoldsTextless raw) ∧
    (∀ spec, parse raw = .ok spec →
      ∃ p : SpecParts raw, List.Forall₂ ReadsScenario p.scenarios spec.scenarios) ∧
    (∀ f, parse raw = .error f ↔ ∃ before c after, checksOf raw = before ++ c :: after ∧
      (∀ d ∈ before, d.failure? = none) ∧ c.failure? = some f) ∧
    ∀ name index e, parse raw = .error (.refused (.step name index e)) →
      (∃ p : SpecParts raw, ∃ before s after, p.scenarios = before ++ s :: after ∧
        (∀ b ∈ before, IsScenarioDocument b) ∧ Nonempty (RefusedAt s name index e)) ∧
      ∃ rest, (SpecError.step name index e).message = stepPlace name index ++ rest := by
  refine ⟨parse_ok_iff.trans checks_pass_iff, fun _ => parse_reads, fun _ => parse_error_iff, ?_⟩
  exact fun name index e h => ⟨parse_step_refused h, message_place e _⟩

/-- A document whose feature is an integer without a text. -/
def longFeature : Value :=
  .map [(.text "feature", .int (16 ^ (3600 : Nat))), (.text "scenarios", .list [])]

/-- Not every document of a spec is read. -/
theorem longFeature_unread : IsDocument longFeature ∧ ¬ ∃ spec, parse longFeature = .ok spec := by
  have hlong : isLong (16 ^ (3600 : Nat)) = true := by decide +kernel
  let p : SpecParts longFeature :=
    { entries := [(.text "feature", .int (16 ^ (3600 : Nat))), (.text "scenarios", .list [])]
      feature := .int (16 ^ (3600 : Nat))
      scenarios := []
      declared := []
      mapping := rfl
      featured := ⟨rfl, nofun, nofun⟩
      listed := ⟨.list [], rfl, .inr rfl⟩
      vars := .inl ⟨rfl, rfl⟩
      status := .inl rfl }
  refine ⟨⟨p, nofun⟩, fun h => ?_⟩
  refine (checks_pass_iff.mp (parse_ok_iff.mp h)).2 ⟨p, .inl ?_⟩
  exact Value.lacksText_int hlong

end Success

end FeatureRun.Spec
