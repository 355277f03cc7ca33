import FeatureRun.Proofs.StepRefusal
import FeatureRun.Run.Failure

/-!
The failures that leave the reading of a spec. All are refusals of the document, unless a value
escapes: one without a text where its text is needed, be it an integer with too many digits or a
value that is too deep, or an integer beyond the reals that is waited for. Main statement:
`parse_refusal`.
-/
namespace FeatureRun.Spec
open FeatureRun.Text FeatureRun.Number FeatureRun.Data
open scoped FeatureRun.CoreInstances

section Specs
variable {α β : Type}

def Escaped (r : Except SpecFailure α) : Prop := ∃ c, r = .error (.conversion c)

/-- A value is there unless one without a text stands in its way. -/
inductive Converts : Bool → Except SpecFailure α → Prop
  | there (x : α) : Converts false (.ok x)
  | fails (c : ConversionError) : Converts true (.error (.conversion c))

private theorem not_escaped_ok (x : α) : ¬ Escaped (.ok x : Except SpecFailure α) := by
  rintro ⟨c, hc⟩
  cases hc

private theorem not_escaped_refused (e : SpecError) :
    ¬ Escaped (.error (.refused e) : Except SpecFailure α) := by
  rintro ⟨c, hc⟩
  cases hc

private theorem escaped_conversion (c : ConversionError) :
    Escaped (.error (.conversion c) : Except SpecFailure α) := ⟨c, rfl⟩

private theorem escaped_of_bind {r : Except SpecFailure α} {f : α → Except SpecFailure β}
    (h : Escaped (r >>= f)) (hr : ¬ Escaped r) : ∃ x, r = .ok x ∧ Escaped (f x) := by
  cases r with
  | ok x => exact ⟨x, rfl, h⟩
  | error e =>
    obtain ⟨c, hc⟩ := h
    cases hc
    exact absurd (escaped_conversion c) hr

/-- What is built from a value escapes if the value does. -/
private theorem escaped_build {r : Except SpecFailure α} {g : α → β} :
    Escaped (r >>= fun x => .ok (g x)) ↔ Escaped r := by
  cases r with
  | ok x => exact iff_of_false (not_escaped_ok _) (not_escaped_ok x)
  | error e =>
    constructor <;>
    · rintro ⟨c, hc⟩
      cases hc
      exact ⟨c, rfl⟩

namespace Converts
variable {lacks : Bool} {r : Except SpecFailure α}

theorem of_text {long deep : Bool} {r : Except ConversionError α} (h : TextUnless long deep r) :
    Converts (long || deep) (r.mapError SpecFailure.conversion) := by
  cases h with
  | there x => exact .there x
  | tooLong => exact .fails _
  | tooDeep =>
    rw [Bool.or_true]
    exact .fails _

theorem map {g : α → β} (h : Converts lacks r) : Converts lacks (r.map g) := by
  cases h with
  | there x => exact .there (g x)
  | fails c => exact .fails c

private theorem escaped_bind {f : α → Except SpecFailure β} {P : Prop} (h : Converts lacks r)
    (hf : ∀ x, Escaped (f x) ↔ P) : Escaped (r >>= f) ↔ lacks = true ∨ P := by
  cases h with
  | there x =>
    have hx := hf x
    simp only [Bool.false_eq_true, false_or]
    exact hx
  | fails c => exact iff_of_true (escaped_conversion c) (.inl rfl)

end Converts

theorem textOf_converts (v : Value) : Converts v.lacksText (textOf v) :=
  .of_text v.display_unless

theorem parseDescription_converts (v : Value) : Converts v.lacksText (parseDescription v) := by
  unfold parseDescription
  split
  · exact .there none
  · exact (textOf_converts v).map

theorem parseBaseUrl_converts (v : Value) : Converts v.lacksText (parseBaseUrl v) := by
  unfold parseBaseUrl
  split
  · exact (textOf_converts v).map
  · rename_i ht
    rw [Value.lacksText_of_falsy (Bool.eq_false_iff.mpr ht)]
    exact .there none

def anyLacksText (entries : List (Value × Value)) : Bool :=
  entries.any fun e => e.1.lacksText || e.2.lacksText

private theorem anyLacksText_eq (entries : List (Value × Value)) :
    anyLacksText entries = (entries.any (fun e => e.1.showsLong [] || e.2.showsLong []) ||
      entries.any fun e => e.1.exceeds depthLimit || e.2.exceeds depthLimit) := by
  induction entries with
  | nil => rfl
  | cons e es ih =>
    simp only [anyLacksText, Value.lacksText, List.any_cons] at ih ⊢
    rw [ih]
    ac_rfl

theorem variables_converts (entries : List (Value × Value)) :
    Converts (anyLacksText entries)
      ((Variables.ofEntries entries).mapError SpecFailure.conversion) := by
  have hpair (e : Value × Value) :
      TextUnless (e.1.showsLong [] || e.2.showsLong [])
        (e.1.exceeds depthLimit || e.2.exceeds depthLimit)
        (do .ok (← e.1.display, ← e.2.display) : Except ConversionError (String × String)) :=
    e.1.display_unless.bind fun _ => e.2.display_unless.bind_there fun _ => .there _
  rw [anyLacksText_eq]
  exact .of_text ((TextUnless.mapM hpair).bind_there fun _ => .there _)

def IsStatus (v : Value) : Prop := ∃ status, Status.parse v = .ok status

/-- A status is read or refused, or it has no text. -/
private theorem ofName_cases (v : Value) :
    v.lacksText = true ∧ Escaped (Status.ofName v) ∨
      v.lacksText = false ∧ ((∃ status, Status.ofName v = .ok status) ∨
        ∃ e, Status.ofName v = .error (.refused e)) := by
  have ht := textOf_converts v
  have hs := v.shown_unless
  cases hlacks : v.lacksText with
  | true =>
    rw [hlacks] at ht
    refine .inl ⟨rfl, ?_⟩
    unfold Status.ofName
    generalize textOf v = r at ht
    cases ht
    exact escaped_conversion _
  | false =>
    obtain ⟨hlong, hdeep⟩ := Bool.or_eq_false_iff.mp hlacks
    rw [hlacks] at ht
    rw [hlong, hdeep] at hs
    refine .inr ⟨rfl, ?_⟩
    unfold Status.ofName
    generalize textOf v = r at ht
    generalize v.shown = shown at hs
    cases ht with
    | there s =>
      cases hs with
      | there shown =>
        simp only [ok_mapError, ok_bind]
        cases Status.named? (lower (strip s)) with
        | some status => exact .inl ⟨status, rfl⟩
        | none => exact .inr ⟨_, rfl⟩

private theorem status_cases (v : Value) :
    v.lacksText = true ∧ Escaped (Status.parse v) ∨
      v.lacksText = false ∧ (IsStatus v ∨ ∃ e, Status.parse v = .error (.refused e)) := by
  unfold IsStatus Status.parse
  split
  · exact .inr ⟨Value.lacksText_of_falsy rfl, .inl ⟨.draft, rfl⟩⟩
  · exact ofName_cases v

private theorem status_escaped_bind (v : Value) {f : Status → Except SpecFailure β} {P : Prop}
    (hf : ∀ x, Escaped (f x) ↔ P) :
    Escaped (Status.parse v >>= f) ↔ v.lacksText = true ∨ IsStatus v ∧ P := by
  rcases status_cases v with ⟨hl, c, hc⟩ | ⟨hl, ⟨status, hs⟩ | ⟨e, he⟩⟩
  · rw [hc]
    exact iff_of_true (escaped_conversion c) (.inl hl)
  · have hstatus : IsStatus v := ⟨status, hs⟩
    rw [hs, hl]
    simp only [Bool.false_eq_true, false_or, hstatus, true_and]
    exact hf status
  · rw [he, hl]
    refine iff_of_false (not_escaped_refused e) ?_
    rintro (h | ⟨⟨status, hs⟩, _⟩)
    · cases h
    · rw [he] at hs
      cases hs

private theorem parseSteps_escaped (scenario : String) (index : Nat) (xs : List Value) :
    Escaped (parseSteps scenario index xs) ↔ FirstEscapes IsStep StepEscapes xs := by
  induction xs generalizing index with
  | nil => exact iff_of_false (not_escaped_ok _) firstEscapes_nil
  | cons raw rest ih =>
    rw [firstEscapes_cons, ← step_conversion_iff]
    unfold parseSteps IsStep
    cases h : Step.parse raw with
    | ok step =>
      simp only [reduceCtorEq, exists_false, false_or, Except.ok.injEq, exists_eq', true_and]
      exact escaped_build.trans (ih (index + 1))
    | error e =>
      cases e with
      | refused e =>
        refine iff_of_false (not_escaped_refused _) ?_
        simp
      | conversion c => exact iff_of_true (escaped_conversion c) (.inl ⟨c, rfl⟩)

/-- A value escapes from a scenario: its name has no text, or the first of its steps that is not
read escapes. -/
inductive ScenarioEscapes (raw : Value) : Prop
  | name {entries : List (Value × Value)} {v : Value} :
      raw.entries? = some entries → present? "name" entries = some v → v.lacksText = true →
      ScenarioEscapes raw
  | step {entries : List (Value × Value)} {v : Value} {steps : List Value} :
      raw.entries? = some entries → present? "name" entries = some v →
      (Value.field? "steps" entries).bind Value.items? = some steps →
      FirstEscapes IsStep StepEscapes steps → ScenarioEscapes raw

private theorem scenario_escaped (index : Nat) (raw : Value) :
    Escaped (Scenario.parse index raw) ↔ ScenarioEscapes raw := by
  unfold Scenario.parse
  cases he : raw.entries? with
  | none =>
    refine iff_of_false (not_escaped_refused _) ?_
    rintro (⟨h, _, _⟩ | ⟨h, _, _, _⟩) <;> simp [he] at h
  | some entries =>
    dsimp only
    cases hn : present? "name" entries with
    | none =>
      refine iff_of_false (not_escaped_refused _) ?_
      rintro (⟨h, hv, _⟩ | ⟨h, hv, _, _⟩) <;>
      · rw [he] at h
        cases h
        rw [hn] at hv
        cases hv
    | some v =>
      dsimp only
      refine ((textOf_converts v).escaped_bind (P := ∃ steps,
        (Value.field? "steps" entries).bind Value.items? = some steps ∧
          FirstEscapes IsStep StepEscapes steps) fun name => ?_).trans ?_
      · cases (Value.field? "steps" entries).bind Value.items? with
        | none =>
          refine iff_of_false (not_escaped_refused _) ?_
          rintro ⟨_, h, _⟩
          cases h
        | some steps =>
          dsimp only
          rw [escaped_build, parseSteps_escaped]
          constructor
          · exact fun h => ⟨steps, rfl, h⟩
          · rintro ⟨_, h, hfirst⟩
            cases h
            exact hfirst
      · constructor
        · rintro (hl | ⟨steps, hs, hfirst⟩)
          · exact .name he hn hl
          · exact .step he hn hs hfirst
        · rintro (⟨h, hv, hl⟩ | ⟨h, hv, hs, hfirst⟩) <;>
          · rw [he] at h
            cases h
            rw [hn] at hv
            cases hv
            first
              | exact .inl hl
              | exact .inr ⟨_, hs, hfirst⟩

def IsScenario (raw : Value) : Prop := ∃ scenario, Scenario.parse 1 raw = .ok scenario

private theorem scenario_ok_anywhere {i j : Nat} {raw : Value} {scenario : Scenario}
    (h : Scenario.parse i raw = .ok scenario) : Scenario.parse j raw = .ok scenario := by
  unfold Scenario.parse at h ⊢
  cases he : raw.entries? with
  | none =>
    rw [he] at h
    cases h
  | some entries =>
    rw [he] at h
    dsimp only at h ⊢
    cases hn : present? "name" entries with
    | none =>
      rw [hn] at h
      cases h
    | some v =>
      rw [hn] at h
      dsimp only at h ⊢
      cases ht : textOf v with
      | error e =>
        rw [ht] at h
        cases h
      | ok name =>
        rw [ht] at h
        rw [ok_bind] at h ⊢
        cases hs : (Value.field? "steps" entries).bind Value.items? with
        | none =>
          rw [hs] at h
          cases h
        | some steps =>
          rw [hs] at h
          exact h

/-- The place of a scenario is seen in errors alone. -/
theorem isScenario_iff (index : Nat) (raw : Value) :
    IsScenario raw ↔ ∃ scenario, Scenario.parse index raw = .ok scenario :=
  ⟨fun ⟨s, h⟩ => ⟨s, scenario_ok_anywhere h⟩, fun ⟨s, h⟩ => ⟨s, scenario_ok_anywhere h⟩⟩

private theorem parseScenarios_escaped (index : Nat) (xs : List Value) :
    Escaped (parseScenarios index xs) ↔ FirstEscapes IsScenario ScenarioEscapes xs := by
  induction xs generalizing index with
  | nil => exact iff_of_false (not_escaped_ok _) firstEscapes_nil
  | cons raw rest ih =>
    rw [firstEscapes_cons, ← scenario_escaped index, isScenario_iff index]
    unfold parseScenarios
    cases Scenario.parse index raw with
    | ok scenario =>
      rw [ok_bind, escaped_build, ih (index + 1)]
      simp [not_escaped_ok]
    | error e =>
      cases e with
      | refused e =>
        refine iff_of_false (not_escaped_refused e) ?_
        rintro (h | ⟨⟨_, h⟩, _⟩)
        · exact not_escaped_refused e h
        · cases h
      | conversion c => exact iff_of_true (escaped_conversion c) (.inl (escaped_conversion c))

/-- The document has the outline of a spec: what is checked before any text of it is read. -/
structure HasOutline (raw : Value) (entries : List (Value × Value)) (feature : Value)
    (scenarios : List Value) (declared : List (Value × Value)) : Prop where
  mapping : raw.entries? = some entries
  feature : present? "feature" entries = some feature
  scenarios : ∃ v, Value.field? "scenarios" entries = some v ∧ scenarioItems v = .ok scenarios
  vars : variableEntries (fieldOr "variables" entries) = .ok declared

/-- A value escapes from a document: one of which the spec needs the text has none, or the first
scenario that is not read escapes. -/
inductive Escapes (raw : Value) : Prop
  | feature {entries declared : List (Value × Value)} {feature : Value} {scenarios : List Value} :
      HasOutline raw entries feature scenarios declared → feature.lacksText = true → Escapes raw
  | description {entries declared : List (Value × Value)} {feature : Value}
      {scenarios : List Value} :
      HasOutline raw entries feature scenarios declared →
      (fieldOr "description" entries).lacksText = true → Escapes raw
  | status {entries declared : List (Value × Value)} {feature : Value} {scenarios : List Value} :
      HasOutline raw entries feature scenarios declared →
      (fieldOr "status" entries).lacksText = true → Escapes raw
  | baseUrl {entries declared : List (Value × Value)} {feature : Value} {scenarios : List Value} :
      HasOutline raw entries feature scenarios declared → IsStatus (fieldOr "status" entries) →
      (fieldOr "base_url" entries).lacksText = true → Escapes raw
  | vars {entries declared : List (Value × Value)} {feature : Value} {scenarios : List Value} :
      HasOutline raw entries feature scenarios declared → IsStatus (fieldOr "status" entries) →
      anyLacksText declared = true → Escapes raw
  | scenario {entries declared : List (Value × Value)} {feature : Value} {scenarios : List Value} :
      HasOutline raw entries feature scenarios declared → IsStatus (fieldOr "status" entries) →
      FirstEscapes IsScenario ScenarioEscapes scenarios → Escapes raw

private theorem scenarioItems_not_escaped (v : Value) : ¬ Escaped (scenarioItems v) := by
  unfold scenarioItems
  split
  · exact not_escaped_ok _
  · split
    · exact not_escaped_ok _
    · exact not_escaped_refused _

private theorem variableEntries_not_escaped (v : Value) : ¬ Escaped (variableEntries v) := by
  unfold variableEntries
  split
  · split
    · exact not_escaped_ok _
    · exact not_escaped_refused _
  · exact not_escaped_ok _

/-- What escapes from a document with the outline of a spec, in the order in which it is read. -/
private theorem parse_outline {raw feature : Value} {entries declared : List (Value × Value)}
    {scenarios : List Value} (ho : HasOutline raw entries feature scenarios declared) :
    Escaped (parse raw) ↔ feature.lacksText = true ∨
      (fieldOr "description" entries).lacksText = true ∨
      (fieldOr "status" entries).lacksText = true ∨ IsStatus (fieldOr "status" entries) ∧
        ((fieldOr "base_url" entries).lacksText = true ∨ anyLacksText declared = true ∨
          FirstEscapes IsScenario ScenarioEscapes scenarios) := by
  obtain ⟨v, hv, hi⟩ := ho.scenarios
  unfold parse
  simp only [ho.mapping, ho.feature, hv, hi, ho.vars, ok_bind]
  refine (textOf_converts feature).escaped_bind fun _ => ?_
  refine (parseDescription_converts _).escaped_bind fun _ => ?_
  refine status_escaped_bind _ fun _ => ?_
  refine (parseBaseUrl_converts _).escaped_bind fun _ => ?_
  refine (variables_converts declared).escaped_bind fun _ => ?_
  exact escaped_build.trans (parseScenarios_escaped 1 scenarios)

private theorem hasOutline_of_escaped {raw : Value} (h : Escaped (parse raw)) :
    ∃ entries feature scenarios declared, HasOutline raw entries feature scenarios declared := by
  unfold parse at h
  cases hm : raw.entries? with
  | none =>
    rw [hm] at h
    exact absurd h (not_escaped_refused _)
  | some entries =>
    rw [hm] at h
    dsimp only at h
    cases hf : present? "feature" entries with
    | none =>
      rw [hf] at h
      exact absurd h (not_escaped_refused _)
    | some feature =>
      cases hv : Value.field? "scenarios" entries with
      | none =>
        rw [hf, hv] at h
        exact absurd h (not_escaped_refused _)
      | some v =>
        rw [hf, hv] at h
        dsimp only at h
        obtain ⟨scenarios, hs, h⟩ := escaped_of_bind h (scenarioItems_not_escaped v)
        obtain ⟨declared, hd, _⟩ := escaped_of_bind h (variableEntries_not_escaped _)
        exact ⟨entries, feature, scenarios, declared, hm, hf, ⟨v, hv, hs⟩, hd⟩

/-- The reading of a document ends by a value that cannot be converted exactly if one escapes. -/
theorem parse_escaped (raw : Value) : Escaped (parse raw) ↔ Escapes raw := by
  constructor
  · intro h
    obtain ⟨entries, feature, scenarios, declared, ho⟩ := hasOutline_of_escaped h
    rcases (parse_outline ho).mp h with hl | hl | hl | ⟨hs, hl | hl | hl⟩
    · exact .feature ho hl
    · exact .description ho hl
    · exact .status ho hl
    · exact .baseUrl ho hs hl
    · exact .vars ho hs hl
    · exact .scenario ho hs hl
  · intro h
    cases h with
    | feature ho hl => exact (parse_outline ho).mpr (.inl hl)
    | description ho hl => exact (parse_outline ho).mpr (.inr (.inl hl))
    | status ho hl => exact (parse_outline ho).mpr (.inr (.inr (.inl hl)))
    | baseUrl ho hs hl => exact (parse_outline ho).mpr (.inr (.inr (.inr ⟨hs, .inl hl⟩)))
    | vars ho hs hl => exact (parse_outline ho).mpr (.inr (.inr (.inr ⟨hs, .inr (.inl hl)⟩)))
    | scenario ho hs hl => exact (parse_outline ho).mpr (.inr (.inr (.inr ⟨hs, .inr (.inr hl)⟩)))

end Specs

section Kinds
open FeatureRun.Run

private theorem refused_kind (e : SpecError) :
    (Failure.ofSpec (.refused e)).kind = "SpecParseError" ∨
      (Failure.ofSpec (.refused e)).kind = "StepValidationError" := by
  cases e with
  | step _ _ _ => exact .inr rfl
  | _ => exact .inl rfl

private theorem conversion_kind (c : ConversionError) :
    (Failure.ofSpec (.conversion c)).kind = "ValueError" ∨
      (Failure.ofSpec (.conversion c)).kind = "OverflowError" ∨
      (Failure.ofSpec (.conversion c)).kind = "RecursionError" := by
  cases c with
  | integerTooLarge | infiniteInteger => exact .inr (.inl rfl)
  | tooDeep => exact .inr (.inr rfl)
  | _ => exact .inl rfl

/-- A document that gives no spec is refused as such, unless a value escapes from it; then the
failure of its conversion is what is left. -/
theorem parse_refusal (raw : Value) :
    ((∀ f, parse raw = .error f → (Failure.ofSpec f).kind = "SpecParseError" ∨
        (Failure.ofSpec f).kind = "StepValidationError") ↔ ¬ Escapes raw) ∧
    (Escapes raw → ∃ f, parse raw = .error f ∧ ((Failure.ofSpec f).kind = "ValueError" ∨
      (Failure.ofSpec f).kind = "OverflowError" ∨
      (Failure.ofSpec f).kind = "RecursionError")) := by
  rw [← parse_escaped]
  refine ⟨⟨?_, ?_⟩, ?_⟩
  · rintro h ⟨c, hc⟩
    rcases h _ hc with hk | hk <;> rcases conversion_kind c with hk' | hk' | hk' <;>
    · rw [hk] at hk'
      exact absurd hk' (by decide)
  · intro h f hf
    cases f with
    | refused e => exact refused_kind e
    | conversion c => exact absurd ⟨c, hf⟩ h
  · rintro ⟨c, hc⟩
    exact ⟨_, hc, conversion_kind c⟩

def longWait : Value :=
  .map [
    (.text "feature", .text "Shop"),
    (.text "scenarios", .list [
      .map [
        (.text "name", .text "Wait"),
        (.text "steps", .list [.map [(.text "wait", .int (10 ^ (400 : Nat)))]])]])]

/-- Not every document that gives no spec is refused as such. -/
theorem parse_overflow :
    ¬ ∀ (raw : Value) (f : SpecFailure), parse raw = .error f →
      (Failure.ofSpec f).kind = "SpecParseError" ∨
        (Failure.ofSpec f).kind = "StepValidationError" := by
  intro h
  have hkind : (match parse longWait with
      | .error f => (Failure.ofSpec f).kind
      | .ok _ => "") = "OverflowError" := by
    decide +kernel
  cases hp : parse longWait with
  | ok spec =>
    rw [hp] at hkind
    dsimp only at hkind
    exact absurd hkind (by decide)
  | error f =>
    rw [hp] at hkind
    dsimp only at hkind
    rcases h longWait f hp with hk | hk <;>
    · rw [hk] at hkind
      exact absurd hkind (by decide)

end Kinds

end FeatureRun.Spec
