import FeatureRun.Proofs.SessionTrace
import FeatureRun.Proofs.ValueTexts

/-!
Interrupts. One that is raised in the session of a spec ends the whole run, unless a session step
that comes later fails by a fault of the browser: that fault takes its place, and the run goes on.
-/
namespace FeatureRun.Run
open FeatureRun.Text FeatureRun.Data FeatureRun.Files FeatureRun.Spec FeatureRun.Browser

def taken (w w' : World) : List SessionEvent := w'.events.drop w.events.length

/-- An interrupt is raised on the way from one world to another, by a session step or by a call on
the page, which uses up one of the page's interrupts. -/
def InterruptRaised (w w' : World) : Prop :=
  (∃ e ∈ stepFailures w.failing (taken w w'), e.isInterrupt = true) ∨
    interruptsLeft w'.page.faults < interruptsLeft w.page.faults

/-- The last session step to fail on the way fails by a fault of the browser. -/
def FaultLast (w w' : World) : Prop :=
  ∃ b, (stepFailures w.failing (taken w w')).getLast? = some (.browser b)

def FaultOrInterrupt (failing : Failing) : Prop :=
  ∀ step e, failing.lookup step = some e → (∃ b, e = .browser b) ∨ e.isInterrupt = true

/-- The session of a spec has been left, and nothing has been done since. Either it did not open, or
its scenarios had all been run, or they had been run up to one that was interrupted. -/
def LeftInSession (spec : Spec) (path : Path) (o : Options) (w w' : World) : Prop :=
  (∃ e, outcome (openSession o) (ready spec path w) = (.error e, w')) ∨
    ∃ opened shots r last, outcome (openSession o) (ready spec path w) = (.ok (), opened) ∧
      uniquePaths [] (spec.scenarios.map fun s => failurePath path s.name o.screenshotsDirname) =
        .ok shots ∧
      Course (contextIn spec path o w) (spec.scenarios.zip shots) opened r last ∧
      w' = took last closing

section Sessions
variable {o : Options} {w w' : World}

private theorem taken_eq (events : List SessionEvent) (h : w'.events = w.events ++ events) :
    taken w w' = events := by
  rw [taken, h, List.drop_left]

theorem FaultOrInterrupt.stepFailures {failing : Failing} (hd : FaultOrInterrupt failing)
    {events : List SessionEvent} {e : Failure} (h : e ∈ stepFailures failing events) :
    (∃ b, e = .browser b) ∨ e.isInterrupt = true := by
  obtain ⟨event, _, he⟩ := List.mem_filterMap.mp h
  exact hd _ e he

/-- A browser for which an engine is chosen has a name to report. -/
private theorem chooseEngine_display {v : Value} {engine : BrowserEngine}
    (h : outcome (chooseEngine v) w = (.ok engine, w)) : ∃ name, v.display = .ok name := by
  cases ht : v.isTruthy with
  | false =>
    exact v.display_unless.ok_iff.mpr (Bool.or_eq_false_iff.mp (Value.lacksText_of_falsy ht))
  | true =>
    unfold chooseEngine at h
    rw [ht, if_pos rfl] at h
    cases v with
    | text s => exact ⟨_, rfl⟩
    | _ => cases h

/-- A session has ended as the last of its steps that failed decides: by a fault of the engine if that
was a fault of the browser, and otherwise by an interrupt. -/
def LastDecides (w : World) (r : Except Failure Unit × World) : Prop :=
  (FaultLast w r.2 ∧ ∃ fault, r.1 = .error (.engine fault)) ∨
    (¬ FaultLast w r.2 ∧ ∃ e, e.isInterrupt = true ∧ r.1 = .error e)

private theorem lastDecides_of_step (fault : String → BrowserError → EngineError) {f : Failure}
    (hl : (stepFailures w.failing (taken w w')).getLast? = some f)
    (hf : (∃ b, f = .browser b) ∨ f.isInterrupt = true)
    (hname : (∃ b, f = .browser b) → ∃ name, o.browser.display = .ok name) :
    LastDecides w (.error (reported o fault f), w') := by
  rcases hf with ⟨b, rfl⟩ | hf
  · obtain ⟨name, hn⟩ := hname ⟨b, rfl⟩
    refine .inl ⟨⟨b, hl⟩, fault name b, ?_⟩
    rw [reported, hn]
  · cases f with
    | interrupt message =>
      refine .inr ⟨?_, .interrupt message, rfl, rfl⟩
      rintro ⟨b, hb⟩
      rw [hl] at hb
      cases hb
    | _ => cases hf

/-- If no session step fails, the page raised the interrupt, and the body ends by it. -/
private theorem lastDecides_of_body {r : Except Failure Unit}
    (hl : (stepFailures w.failing (taken w w')).getLast? = none)
    (hp : interruptsLeft w'.page.faults =
      interruptsLeft w.page.faults - if interrupted r then 1 else 0)
    (hi : InterruptRaised w w') : LastDecides w (r, w') := by
  have hlt : interruptsLeft w'.page.faults < interruptsLeft w.page.faults := by
    rcases hi with ⟨x, hx, _⟩ | hi
    · rw [List.getLast?_eq_none_iff.mp hl] at hx
      cases hx
    · exact hi
  refine .inr ⟨?_, ?_⟩
  · rintro ⟨b, hb⟩
    rw [hl] at hb
    cases hb
  · cases hr : interrupted r with
    | false =>
      rw [hp, hr] at hlt
      simp at hlt
    | true =>
      cases r with
      | ok _ => cases hr
      | error e => exact ⟨e, hr, rfl⟩

private theorem two_le_length {xs : List Failure} {x y : Failure} (hx : x ∈ xs)
    (hy : xs.getLast? = some y) (hne : x ≠ y) : 2 ≤ xs.length := by
  match xs with
  | [] => cases hx
  | [a] =>
    have ha : a = y := Option.some.inj hy
    exact absurd ((List.mem_singleton.mp hx).trans ha) hne
  | _ :: _ :: _ => exact Nat.le_add_left 2 _

/-- In a session that is interrupted the last session step that fails decides. -/
theorem withSession_interrupted {body : Run Unit} (hd : FaultOrInterrupt w.failing)
    (hsession : ∀ v, (outcome body v).2.inSession v = (outcome body v).2)
    (hinterrupt : ∀ v, interruptsLeft (outcome body v).2.page.faults =
      interruptsLeft v.page.faults - if interrupted (outcome body v).1 then 1 else 0)
    (hi : InterruptRaised w (outcome (withSession o body) w).2) :
    LastDecides w (outcome (withSession o body) w) := by
  rcases withSession_cases o body w with
    ⟨engine, slow, window, timeout, opened, hw, hs, _, hr⟩ | ⟨events, e, _, hc, hr⟩
  · obtain ⟨hf, he⟩ := World.session_eq (hsession opened)
    have hfailing : (outcome body opened).2.failing = w.failing := hf.trans (by rw [hw]; rfl)
    have ht : stepFailures w.failing (taken w (took (outcome body opened).2 closing)) =
        stepFailures w.failing closing := by
      rw [taken_eq ([.start, .launch engine o.headless slow, .newContext window,
        .newPage] ++ closing) (by rw [took, he, hw, ← List.append_assoc]; rfl)]
      exact hs.stepFailures engine slow window
    have hp : interruptsLeft (took (outcome body opened).2 closing).page.faults =
        interruptsLeft w.page.faults - if interrupted (outcome body opened).1 then 1 else 0 :=
      (hinterrupt opened).trans (by rw [hw]; rfl)
    rw [hr] at hi ⊢
    rw [hfailing]
    cases hl : (stepFailures w.failing closing).getLast? with
    | none => exact lastDecides_of_body (by rw [ht, hl]) hp hi
    | some f =>
      obtain ⟨engine, hc⟩ := hs.engine
      exact lastDecides_of_step .close (by rw [ht, hl])
        (hd.stepFailures (List.mem_of_getLast? hl)) fun _ => chooseEngine_display (hc w)
  · have ht : taken w (took w events) = events := taken_eq events rfl
    rw [hr] at hi ⊢
    obtain ⟨x, hx, hxi⟩ : ∃ e ∈ stepFailures w.failing events, e.isInterrupt = true := by
      rcases hi with hi | hi
      · rwa [ht] at hi
      · exact absurd hi (Int.lt_irrefl _)
    cases hl : (stepFailures w.failing events).getLast? with
    | none =>
      rw [List.getLast?_eq_none_iff.mp hl] at hx
      cases hx
    | some f =>
      rw [hc.last hl]
      refine lastDecides_of_step .launch (by rw [ht, hl])
        (hd.stepFailures (List.mem_of_getLast? hl)) ?_
      rintro ⟨b, rfl⟩
      -- the interrupt came before the fault, so two steps failed
      have hne : x ≠ .browser b := by
        rintro rfl
        cases hxi
      have hlen := two_le_length hx hl hne
      obtain ⟨engine, v, hv⟩ := hc.chosen hlen
      exact chooseEngine_display hv

end Sessions

section Specs
variable {spec : Spec} {path : Path} {o : Options} {w : World}

def sessionOf (spec : Spec) (path : Path) (o : Options) (w : World) :
    Except Failure Unit × World :=
  outcome (withSession o (scenariosOf spec path o w)) (ready spec path w)

private theorem sessionOf_left (spec : Spec) (path : Path) (o : Options) (w : World) :
    LeftInSession spec path o w (sessionOf spec path o w).2 := by
  rcases withSession_cases o (scenariosOf spec path o w) (ready spec path w) with
    ⟨_, _, _, _, opened, _, _, ho, hr⟩ | ⟨events, e, ho, _, hr⟩
  · obtain ⟨shots, hu, hc⟩ := runScenarios_course (contextIn spec path o w) path
      o.screenshotsDirname [] spec.scenarios opened
    exact .inr ⟨opened, shots, _, _, ho, hu, hc, congrArg Prod.snd hr⟩
  · exact .inl ⟨e, ho.trans (by rw [sessionOf, hr])⟩

/-- What is done after the session of a spec is seen neither in the session steps nor on the
page. -/
private theorem runSpec_after (spec : Spec) (path : Path) (o : Options) (w : World) :
    (outcome (runSpec spec path o) w).2.events = (sessionOf spec path o w).2.events ∧
    (outcome (runSpec spec path o) w).2.page = (sessionOf spec path o w).2.page := by
  rw [outcome_runSpec, ← sessionOf]
  rcases sessionOf spec path o w with ⟨e | _, w'⟩
  · cases e <;> exact ⟨rfl, rfl⟩
  · exact ⟨rfl, rfl⟩

private theorem runSpec_of_fault {fault : EngineError}
    (h : (sessionOf spec path o w).1 = .error (.engine fault)) :
    ∃ result, (outcome (runSpec spec path o) w).1 = .ok result := by
  rw [outcome_runSpec, ← sessionOf]
  rcases hs : sessionOf spec path o w with ⟨r, w'⟩
  rw [hs] at h
  cases h
  exact ⟨_, rfl⟩

private theorem runSpec_of_interrupt {e : Failure} (h : (sessionOf spec path o w).1 = .error e)
    (he : e.isInterrupt = true) :
    outcome (runSpec spec path o) w = (.error e, (sessionOf spec path o w).2) := by
  rw [outcome_runSpec, ← sessionOf]
  rcases hs : sessionOf spec path o w with ⟨r, w'⟩
  rw [hs] at h
  cases h
  cases e with
  | interrupt _ => rfl
  | _ => cases he

/-- A spec that is interrupted gives a result if a fault comes last, and otherwise it ends by an
interrupt where its session is left. -/
theorem runSpec_interrupted (hd : FaultOrInterrupt w.failing)
    (hi : InterruptRaised w (outcome (runSpec spec path o) w).2) :
    (FaultLast w (outcome (runSpec spec path o) w).2 ∧
      ∃ result, (outcome (runSpec spec path o) w).1 = .ok result) ∨
    (¬ FaultLast w (outcome (runSpec spec path o) w).2 ∧
      (∃ e, e.isInterrupt = true ∧ (outcome (runSpec spec path o) w).1 = .error e) ∧
      LeftInSession spec path o w (outcome (runSpec spec path o) w).2) := by
  obtain ⟨he, hp⟩ := runSpec_after spec path o w
  have hi' : InterruptRaised (ready spec path w) (sessionOf spec path o w).2 := by
    rw [InterruptRaised, taken, he, hp] at hi
    exact hi
  have hf : FaultLast w (outcome (runSpec spec path o) w).2 ↔
      FaultLast (ready spec path w) (sessionOf spec path o w).2 := by
    rw [FaultLast, taken, he]
    rfl
  rw [hf]
  rcases withSession_interrupted (o := o) (w := ready spec path w) hd
    (runScenarios_session (contextIn spec path o w) path o.screenshotsDirname [] spec.scenarios)
    (runScenarios_interrupted (contextIn spec path o w) path o.screenshotsDirname [] spec.scenarios)
    hi' with ⟨hlast, fault, hr⟩ | ⟨hlast, e, hint, hr⟩
  · exact .inl ⟨hlast, runSpec_of_fault hr⟩
  · rw [runSpec_of_interrupt hr hint]
    exact .inr ⟨hlast, ⟨e, hint, rfl⟩, sessionOf_left spec path o w⟩

end Specs

private theorem loadDocument_ordinary {files : Tree} {path : Path} {e : Failure}
    (h : loadDocument files path = .error e) : e.isInterrupt = false := by
  unfold loadDocument at h
  split at h
  · cases h
    rfl
  · cases h
    rfl
  · cases h
    rfl
  · split at h
    · cases h
      rfl
    · rename_i s _
      cases hy : Yaml.readDocument (unifyLineEnds s) with
      | error f =>
        rw [hy] at h
        cases h
        cases f <;> rfl
      | ok v =>
        rw [hy] at h
        cases h

/-- A file gives no spec for reasons other than an interrupt. -/
private theorem loadSpec_ordinary {files : Tree} {path : Path} {e : Failure}
    (h : loadSpec files path = .error e) : e.isInterrupt = false := by
  rw [loadSpec] at h
  cases hd : loadDocument files path with
  | error e' =>
    rw [hd] at h
    cases h
    exact loadDocument_ordinary hd
  | ok v =>
    rw [hd] at h
    change (Spec.parse v).mapError Failure.ofSpec = .error e at h
    cases hp : Spec.parse v with
    | error f =>
      rw [hp] at h
      cases h
      cases f <;> rfl
    | ok spec =>
      rw [hp] at h
      cases h

/-- Counting a spec file is seen neither in the session steps nor on the page. -/
private theorem counted_after (s : Summary) (path : Path) (r : Except Failure SpecResult × World) :
    (counted s path r).2.events = r.2.events ∧ (counted s path r).2.page = r.2.page := by
  rcases r with ⟨e | _, w⟩
  · cases e <;> exact ⟨rfl, rfl⟩
  · exact ⟨rfl, rfl⟩

private theorem counted_interrupt {s : Summary} {path : Path}
    {r : Except Failure SpecResult × World}
    {w : World} {e : Failure} (he : e.isInterrupt = true) :
    counted s path r = (.error e, w) ↔ r = (.error e, w) := by
  constructor
  · intro h
    rcases r with ⟨e' | _, w'⟩
    · cases e' <;> cases h <;> rfl
    · cases h
  · rintro rfl
    cases e with
    | interrupt _ => rfl
    | _ => cases he

/-- A run that ends by an interrupt has opened a session. -/
private theorem runSpecs_interrupt_grows {o : Options} {s : Summary} {paths : List Path}
    {w w' : World}
    {e : Failure} (h : outcome (runSpecs o s paths) w = (.error e, w'))
    (he : e.isInterrupt = true) :
    w.events.length < w'.events.length := by
  induction paths generalizing s w with
  | nil => cases h
  | cons path rest ih =>
    have hadds := addSpecFile_addsSessions o s path w
    rw [outcome_runSpecs_cons] at h
    rcases hr : outcome (addSpecFile o s path) w with ⟨e' | s', v⟩ <;> rw [hr] at h hadds
    · cases h
      rw [outcome_addSpecFile, counted_interrupt he, outcome_runSpecFile] at hr
      cases hl : loadSpec w.files path with
      | error f =>
        rw [hl] at hr
        cases hr
        rw [loadSpec_ordinary hl] at he
        cases he
      | ok spec =>
        rw [hl] at hr
        have hg := (runSpec_addsSession spec path o w).grows
        dsimp only at hr
        rwa [hr] at hg
    · obtain ⟨_, blocks, hb, _⟩ := hadds
      have hv := ih h
      have hle : w.events.length ≤ v.events.length := by
        rw [hb, List.length_append]
        exact Nat.le_add_right _ _
      omega

section Raised
variable {w w' w'' : World}

private theorem not_interruptRaised_self (hf : w'.events = w.events) (hp : w'.page = w.page) :
    ¬ InterruptRaised w w' := by
  rintro (⟨e, he, _⟩ | h)
  · rw [taken, hf, List.drop_length] at he
    cases he
  · rw [hp] at h
    exact Int.lt_irrefl _ h

/-- An interrupt is raised on one of two ways that follow each other if it is raised on both. -/
theorem InterruptRaised.split {b b' : List SessionEvent} (h : InterruptRaised w w'')
    (hf : w'.failing = w.failing) (he : w'.events = w.events ++ b)
    (he' : w''.events = w'.events ++ b') : InterruptRaised w w' ∨ InterruptRaised w' w'' := by
  have ht : taken w w'' = b ++ b' := taken_eq (b ++ b') (by rw [he', he, List.append_assoc])
  rcases h with ⟨e, hmem, hi⟩ | h
  · rw [ht, stepFailures_append] at hmem
    rcases List.mem_append.mp hmem with hmem | hmem
    · exact .inl (.inl ⟨e, by rwa [taken_eq b he], hi⟩)
    · exact .inr (.inl ⟨e, by rwa [taken_eq b' he', hf], hi⟩)
  · by_cases hlt : interruptsLeft w'.page.faults < interruptsLeft w.page.faults
    · exact .inl (.inr hlt)
    · exact .inr (.inr (by omega))

end Raised

/-- A file in the course of which an interrupt is raised gives a spec, and what becomes of the
spec's session becomes of the file. -/
private theorem addSpecFile_interrupted {o : Options} {s : Summary} {path : Path} {w : World}
    (hd : FaultOrInterrupt w.failing)
    (hi : InterruptRaised w (outcome (addSpecFile o s path) w).2) :
    ∃ spec, loadSpec w.files path = .ok spec ∧
      InterruptRaised w (outcome (runSpec spec path o) w).2 ∧
      ((FaultLast w (outcome (runSpec spec path o) w).2 ∧
        ∃ result, outcome (runSpec spec path o) w =
            (.ok result, (outcome (runSpec spec path o) w).2) ∧
          outcome (addSpecFile o s path) w =
            (.ok (s.add result), (outcome (runSpec spec path o) w).2)) ∨
      (¬ FaultLast w (outcome (runSpec spec path o) w).2 ∧
        LeftInSession spec path o w (outcome (runSpec spec path o) w).2 ∧
        ∃ e, e.isInterrupt = true ∧ outcome (addSpecFile o s path) w =
          (.error e, (outcome (runSpec spec path o) w).2))) := by
  obtain ⟨he, hp⟩ := counted_after s path (outcome (runSpecFile path o) w)
  rw [← outcome_addSpecFile] at he hp
  have hfile := outcome_runSpecFile path o w
  cases hl : loadSpec w.files path with
  | error e =>
    rw [hl] at hfile
    rw [hfile] at he hp
    exact (not_interruptRaised_self he hp hi).elim
  | ok spec =>
    rw [hl] at hfile
    dsimp only at hfile
    rw [hfile] at he hp
    have hraised : InterruptRaised w (outcome (runSpec spec path o) w).2 := by
      rwa [InterruptRaised, taken, he, hp] at hi
    refine ⟨spec, rfl, hraised, ?_⟩
    rw [outcome_addSpecFile, hfile]
    rcases runSpec_interrupted hd hraised with ⟨hlast, result, hr⟩ | ⟨hlast, ⟨e, hint, hr⟩, hleft⟩
    · have ho : outcome (runSpec spec path o) w =
          (.ok result, (outcome (runSpec spec path o) w).2) := Prod.ext hr rfl
      refine .inl ⟨hlast, result, ho, ?_⟩
      rw [ho]
      rfl
    · have ho : outcome (runSpec spec path o) w =
          (.error e, (outcome (runSpec spec path o) w).2) := Prod.ext hr rfl
      exact .inr ⟨hlast, hleft, e, hint, (counted_interrupt hint).mpr ho⟩

/-- The first interrupt of a run is raised in the session of one of its specs. It ends the run there
and then, in the world that the session leaves, unless a fault of the browser comes last in the
session; in that case the run goes on with the next file. -/
theorem runSpecs_interrupt (o : Options) (s : Summary) (paths : List Path) (w : World)
    (hd : FaultOrInterrupt w.failing)
    (hi : InterruptRaised w (outcome (runSpecs o s paths) w).2) :
    ∃ before path rest s₁ w₁ spec, paths = before ++ path :: rest ∧
      outcome (runSpecs o s before) w = (.ok s₁, w₁) ∧ ¬ InterruptRaised w w₁ ∧
      loadSpec w₁.files path = .ok spec ∧
      ∃ left, left = (outcome (runSpec spec path o) w₁).2 ∧ InterruptRaised w₁ left ∧
        ((∃ e, e.isInterrupt = true ∧ outcome (runSpecs o s paths) w = (.error e, left)) ↔
          ¬ FaultLast w₁ left) ∧
        (¬ FaultLast w₁ left → LeftInSession spec path o w₁ left) ∧
        (FaultLast w₁ left → ∃ result, outcome (runSpec spec path o) w₁ = (.ok result, left) ∧
          outcome (runSpecs o s paths) w = outcome (runSpecs o (s₁.add result) rest) left) := by
  induction paths generalizing s w with
  | nil => exact (not_interruptRaised_self rfl rfl hi).elim
  | cons path rest ih =>
    obtain ⟨hf, blocks, he, _⟩ := addSpecFile_addsSessions o s path w
    have hrun := outcome_runSpecs_cons o s path rest w
    by_cases hfirst : InterruptRaised w (outcome (addSpecFile o s path) w).2
    · -- the interrupt is raised here: the file gave a spec, and its session decides
      obtain ⟨spec, hload, hraised, hcases⟩ := addSpecFile_interrupted hd hfirst
      refine ⟨[], path, rest, s, w, spec, rfl, rfl, not_interruptRaised_self rfl rfl, hload, _, rfl,
        hraised, ?_⟩
      rcases hcases with ⟨hlast, result, hspec, hadd⟩ | ⟨hlast, hleft, e, hint, hadd⟩
      · rw [hadd] at hrun
        refine ⟨⟨?_, fun hn => absurd hlast hn⟩, fun hn => absurd hlast hn,
          fun _ => ⟨result, hspec, hrun⟩⟩
        rintro ⟨e, hint, hend⟩
        have hg := runSpecs_interrupt_grows (hrun.symm.trans hend) hint
        exact absurd hg (Nat.lt_irrefl _)
      · rw [hadd] at hrun
        exact ⟨⟨fun _ => hlast, fun _ => ⟨e, hint, hrun⟩⟩, fun _ => hleft,
          fun hn => absurd hn hlast⟩
    · rcases hr : outcome (addSpecFile o s path) w with ⟨e | s', w'⟩ <;>
        rw [hr] at hrun hfirst hf he <;> rw [hrun] at hi ⊢
      · exact absurd hi hfirst
      · obtain ⟨_, later, hlater, _⟩ := runSpecs_addsSessions o s' rest w'
        have hnext := (hi.split hf he hlater).resolve_left hfirst
        obtain ⟨before, path', rest', s₁, w₁, spec, hpaths, hbefore, hquiet, hload, left, hmore⟩ :=
          ih s' w' (by rw [hf]; exact hd) hnext
        refine ⟨path :: before, path', rest', s₁, w₁, spec, by rw [hpaths, List.cons_append], ?_,
          ?_, hload, left, hmore⟩
        · rw [outcome_runSpecs_cons, hr]
          exact hbefore
        · intro hraised
          obtain ⟨_, more, hmore, _⟩ := runSpecs_addsSessions o s' before w'
          rw [hbefore] at hmore
          exact (hraised.split hf he hmore).elim hfirst hquiet

/-- Two spec files, the first of which is interrupted in its click. -/
def interruptedWorld (failing : Failing) : World where
  page := { faults := [⟨.click, .interrupt "stop", 1, 0⟩] }
  failing := failing
  files := {
    nodes := [
      (["a.yaml"], .file
        "feature: A\nscenarios: [\x7bname: B, steps: [\x7bclick: C\x7d]\x7d]\n".toUTF8.toList),
      (["b.yaml"], .file
        "feature: D\nscenarios: [\x7bname: E, steps: []\x7d]\n".toUTF8.toList)]
    workingDirectory := [] }
  picks := ⟨[0], 0⟩

def interruptedPaths : List Path := [Path.ofString "a.yaml", Path.ofString "b.yaml"]

theorem runSpecs_interrupt_passes :
    ∃ e, e.isInterrupt = true ∧
      (outcome (runSpecs {} {} interruptedPaths) (interruptedWorld [])).1 = .error e := by
  have hd : FaultOrInterrupt (interruptedWorld []).failing := by
    intro step e h
    cases h
  have hi : InterruptRaised (interruptedWorld [])
      (outcome (runSpecs {} {} interruptedPaths) (interruptedWorld [])).2 :=
    .inr (by decide +kernel)
  obtain ⟨before, _, _, s₁, w₁, _, _, hb, _, _, left, _, _, hiff, _⟩ :=
    runSpecs_interrupt {} {} interruptedPaths (interruptedWorld []) hd hi
  have hf := (runSpecs_addsSessions {} {} before (interruptedWorld [])).1
  rw [hb] at hf
  have hlast : ¬ FaultLast w₁ left := by
    rintro ⟨b, h⟩
    obtain ⟨event, _, he⟩ := List.mem_filterMap.mp (List.mem_of_getLast? h)
    have hnone : w₁.failing.lookup event.step = none := congrArg (List.lookup event.step) hf
    rw [hnone] at he
    cases he
  obtain ⟨e, he, hr⟩ := hiff.mpr hlast
  exact ⟨e, he, congrArg Prod.fst hr⟩

/-- Not every interrupt ends a run: it is lost if the window cannot be closed after it. -/
theorem interrupt_lost :
    ¬ ∀ (o : Options) (s : Summary) (paths : List Path) (w : World), FaultOrInterrupt w.failing →
      InterruptRaised w (outcome (runSpecs o s paths) w).2 →
      ∃ e, (outcome (runSpecs o s paths) w).1 = .error e := by
  intro h
  have hd : FaultOrInterrupt [(.closeContext, .browser ⟨false, "gone"⟩)] := by
    intro step e h
    cases step <;> cases h
    exact .inl ⟨_, rfl⟩
  obtain ⟨e, he⟩ := h {} {} interruptedPaths
    (interruptedWorld [(.closeContext, .browser ⟨false, "gone"⟩)]) hd (.inr (by decide +kernel))
  have hok : (outcome (runSpecs {} {} interruptedPaths)
      (interruptedWorld [(.closeContext, .browser ⟨false, "gone"⟩)])).1.isOk = true := by
    decide +kernel
  rw [he] at hok
  cases hok

end FeatureRun.Run
