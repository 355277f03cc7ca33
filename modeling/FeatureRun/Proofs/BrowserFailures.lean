import FeatureRun.Proofs.PayloadDemands

/-!
Failures of the browser in a step. Each instruction accesses the page once and reports what fails
there under a kind that its action decides. The check of the address reports nothing of the sort,
and a check of a text cannot name a timeout of too many digits. Main statement:
`perform_browserFailure`.
-/
namespace FeatureRun.Spec
open FeatureRun.Number FeatureRun.Data

/-- The kind of failure under which an action reports that the browser failed: an element was not
found in time, an expectation did not hold in time, or else the engine is at fault. -/
def Action.failureKind : Action → Bool → String
  | .text .goto | .text .press | .text .assertUrl | .text .screenshot | .wait =>
    fun _ => "EngineError"
  | .await .assertVisible | .await .assertHidden =>
    fun timedOut => if timedOut then "AssertionError" else "EngineError"
  | _ => fun timedOut => if timedOut then "LocatorError" else "EngineError"

namespace Instruction

/-- A failure of the browser does not come under the kind of the action: the address is read with
nothing around it, and a timeout that is to be named in a failed expectation is too long for it. -/
def Misreports (timedOut : Bool) : Instruction → Prop
  | .text .assertUrl _ => True
  | .await .assertVisible _ (some n) | .await .assertHidden _ (some n) =>
    timedOut = true ∧ isLong n = true
  | _ => False

inductive Expects : Instruction → Prop
  | url (s : String) : Expects (.text .assertUrl s)
  | visible (s : String) (t : Option Int) : Expects (.await .assertVisible s t)
  | hidden (s : String) (t : Option Int) : Expects (.await .assertHidden s t)

private theorem Misreports.expects {timedOut : Bool} {i : Instruction} (h : i.Misreports timedOut) :
    i.Expects := by
  unfold Misreports at h
  split at h
  · exact .url _
  · exact .visible _ _
  · exact .hidden _ _
  · exact h.elim

private theorem misreports_substitute (vars : Variables) (timedOut : Bool) (i : Instruction) :
    (i.substitute vars).Misreports timedOut ↔ i.Misreports timedOut := by
  cases i with
  | text action _ => cases action <;> rfl
  | await action _ t => cases action <;> cases t <;> rfl
  | _ => rfl

end Instruction

end FeatureRun.Spec

namespace FeatureRun.Run
open FeatureRun.Text FeatureRun.Number FeatureRun.Data FeatureRun.Files FeatureRun.Spec
open FeatureRun.Browser

abbrev stateWait (wanted : Visibility) (text : String) (timeout : Option Int) : Run Unit :=
  waitFor (.visibleText text) wanted (.int (timeout.getD assertTimeout))

/-- What an instruction does up to its access to the page and in it, with nothing made of what comes
of the access. -/
def pageAccess (ctx : Context) : Instruction → Run Unit
  | .text .goto s => goto (resolveAddress ctx.baseUrl s) ctx.timeout
  | .text .clickButton s => click ⟨"button", s, false⟩ ctx.timeout
  | .text .clickLink s => click ⟨"link", s, false⟩ ctx.timeout
  | .text .check s => check ⟨"label", s, false⟩ ctx.timeout
  | .text .uncheck s => uncheck ⟨"label", s, false⟩ ctx.timeout
  | .text .hover s => hover (.visibleText s) ctx.timeout
  | .text .press s => press s
  | .text .assertUrl _ => do
    let _ ← currentUrl
  | .text .assertEnabled s | .text .assertDisabled s => do
    let _ ← isEnabled ⟨"button", s, false⟩ ctx.timeout
  | .text .screenshot s => do
    haveDirectories ctx.screenshots
    screenshot (ctx.screenshots.join (screenshotFileName s))
  | .await .waitFor s t => do
    -- the wait names its timeout before it starts
    let _ ← ofExcept .conversion (integerText (t.getD waitTimeout))
    waitFor (.visibleText s) .visible (.int (t.getD waitTimeout))
  | .await .assertVisible s t => stateWait .visible s t
  | .await .assertHidden s t => stateWait .hidden s t
  | .fill s v => fill ⟨"css", s, false⟩ v ctx.timeout
  | .fillField l v => fill ⟨"label", l, false⟩ v ctx.timeout
  | .select l o => selectOption ⟨"label", l, false⟩ o ctx.timeout
  | .clickText s => click (.visibleText s) ctx.timeout
  | .clickSelector s => click ⟨"css", s, false⟩ ctx.timeout
  | .wait x => waitForTimeout (.real x.atLeastZero)

section Reports
variable {α β γ : Type} {kinds : Bool → String} {attempt : Run α} {r : Run β}

def KeepsBrowserFailures (r : Run α) : Prop := ∀ w w' b, outcome r w ≠ (.error (.browser b), w')

/-- Where the attempt ends by a failure of the browser, the part ends by a failure of the kind for
it, and it never ends by one of the browser itself. -/
structure Reports (kinds : Bool → String) (attempt : Run α) (r : Run β) : Prop where
  reported {w w' : World} {b : BrowserError} : outcome attempt w = (.error (.browser b), w') →
    ∃ e, outcome r w = (.error e, w') ∧ e.kind = kinds b.timedOut
  keeps : KeepsBrowserFailures r

/-- A handler that fails in any case turns failures into failures. -/
private theorem outcome_tryCatch_throw {body : Run α} {handle : Failure → Run α}
    {f : Failure → Failure}
    (h : ∀ e w, outcome (handle e) w = (.error (f e), w)) (w : World) :
    outcome (tryCatch body handle) w =
      ((outcome body w).1.mapError f, (outcome body w).2) := by
  rw [outcome_tryCatch]
  rcases outcome body w with ⟨e | x, w'⟩
  · exact h e w'
  · rfl

/-- A part that differs from the attempt in what it makes of failures reports those of the browser
if it leaves none. -/
private theorem Reports.of_mapError {r : Run α} {body : Run α} {f : Failure → Failure}
    (h : ∀ w, outcome r w = ((outcome body w).1.mapError f, (outcome body w).2))
    (hk : ∀ b, (f (.browser b)).kind = kinds b.timedOut) (hf : ∀ e b, f e ≠ .browser b) :
    Reports kinds body r where
  reported := by
    intro w w' b hb
    refine ⟨f (.browser b), ?_, hk b⟩
    rw [h, hb]
    rfl
  keeps := by
    intro w w' b hb
    rw [h] at hb
    rcases ho : outcome body w with ⟨e | x, v⟩ <;> rw [ho] at hb
    · exact hf e b (Except.error.inj (congrArg Prod.fst hb))
    · cases hb

theorem KeepsBrowserFailures.bind {f : β → Run γ} (h : KeepsBrowserFailures r)
    (hf : ∀ x, KeepsBrowserFailures (f x)) : KeepsBrowserFailures (r >>= f) := by
  intro w w' b hb
  rw [outcome_bind] at hb
  rcases hr : outcome r w with ⟨e | x, v⟩ <;> rw [hr] at hb
  · cases hb
    exact h w w' b hr
  · exact hf x v w' b hb

theorem KeepsBrowserFailures.throw {e : Failure} (h : ∀ b, e ≠ .browser b) :
    KeepsBrowserFailures (throw e : Run α) := by
  intro w w' b hb
  exact h b (Except.error.inj (congrArg Prod.fst hb))

theorem KeepsBrowserFailures.pure (x : α) : KeepsBrowserFailures (pure x : Run α) := by
  intro w w' b hb
  cases hb

/-- What follows a report changes nothing about it. -/
theorem Reports.andThen {f : β → Run γ} (h : Reports kinds attempt r)
    (hf : ∀ x, KeepsBrowserFailures (f x)) : Reports kinds attempt (r >>= f) where
  reported := by
    intro w w' b hb
    obtain ⟨e, he, hk⟩ := h.reported hb
    exact ⟨e, outcome_bind_error he, hk⟩
  keeps := h.keeps.bind hf

/-- Nothing is made of the answer that an attempt gives. -/
private theorem Reports.unasked (h : Reports kinds attempt r) :
    Reports kinds (do let _ ← attempt : Run Unit) r where
  reported := by
    intro w w' b hb
    rw [outcome_bind] at hb
    rcases ha : outcome attempt w with ⟨e | x, v⟩ <;> rw [ha] at hb
    · cases hb
      exact h.reported ha
    · cases hb
  keeps := h.keeps

/-- What comes first, and does not end by a failure of the browser, is done before both; what
becomes of its other failures does not matter. -/
theorem Reports.after {first first' : Run γ} {attempt : γ → Run α} {r : γ → Run β}
    (hfirst : KeepsBrowserFailures first) (hfirst' : KeepsBrowserFailures first')
    (hsame : ∀ {w w' x}, outcome first w = (.ok x, w') → outcome first' w = (.ok x, w'))
    (h : ∀ x, Reports kinds (attempt x) (r x)) :
    Reports kinds (first >>= attempt) (first' >>= r) where
  reported := by
    intro w w' b hb
    rw [outcome_bind] at hb
    rcases hf : outcome first w with ⟨e | x, v⟩ <;> rw [hf] at hb
    · cases hb
      exact (hfirst w w' b hf).elim
    · rw [outcome_bind_ok (hsame hf)]
      exact (h x).reported hb
  keeps := hfirst'.bind fun x => (h x).keeps

def elementKinds (timedOut : Bool) : String := if timedOut then "LocatorError" else "EngineError"

def expectationKinds (timedOut : Bool) : String :=
  if timedOut then "AssertionError" else "EngineError"

end Reports

def locatingFailure (doing : String) : Failure → Failure
  | .browser b => if b.timedOut then .locator doing b else .engine (.during doing b)
  | e => e

def drivingFailure (doing : String) : Failure → Failure
  | .browser b => .engine (.during doing b)
  | e => e

theorem outcome_locating {α : Type} (doing : String) (body : Run α) (w : World) :
    outcome (locating doing body) w =
      ((outcome body w).1.mapError (locatingFailure doing), (outcome body w).2) := by
  apply outcome_tryCatch_throw
  intro e w
  cases e <;> rfl

private theorem locating_reports {α : Type} (doing : String) (body : Run α) :
    Reports elementKinds body (locating doing body) := by
  have hfails (e : Failure) (b : BrowserError) : locatingFailure doing e ≠ .browser b := by
    cases e with
    | browser b =>
      obtain ⟨timedOut, _⟩ := b
      cases timedOut <;> nofun
    | _ => nofun
  refine .of_mapError (outcome_locating doing body) ?_ hfails
  rintro ⟨timedOut, _⟩
  cases timedOut <;> rfl

private theorem driving_reports {α : Type} (doing : String) (body : Run α) :
    Reports (fun _ => "EngineError") body (driving doing body) := by
  have hfails (e : Failure) (b : BrowserError) : drivingFailure doing e ≠ .browser b := by
    cases e <;> nofun
  refine .of_mapError (outcome_tryCatch_throw fun e w => ?_) (fun _ => rfl) hfails
  cases e <;> rfl

def expectationFailure (wanted : Visibility) (text : String) (ms : Int) : Failure → Failure
  | .browser b =>
    if b.timedOut then
      match integerText ms with
      | .ok shown => .assertion (.state wanted text shown)
      | .error e => .conversion e
    else .engine (.asserting wanted text b)
  | e => e

theorem outcome_assertState (wanted : Visibility) (text : String) (timeout : Option Int)
    (w : World) :
    outcome (assertState wanted text timeout) w =
      ((outcome (stateWait wanted text timeout) w).1.mapError
        (expectationFailure wanted text (timeout.getD assertTimeout)),
      (outcome (stateWait wanted text timeout) w).2) := by
  apply outcome_tryCatch_throw
  intro e w
  cases e with
  | browser b =>
    obtain ⟨timedOut, _⟩ := b
    cases timedOut with
    | false => rfl
    | true =>
      simp only [expectationFailure, if_true, outcome_bind, outcome_ofExcept]
      cases integerText (timeout.getD assertTimeout) <;> rfl
  | _ => rfl

private theorem expectationFailure_ne (wanted : Visibility) (text : String) (ms : Int) (e : Failure)
    (b : BrowserError) : expectationFailure wanted text ms e ≠ .browser b := by
  cases e with
  | browser b' =>
    obtain ⟨timedOut, _⟩ := b'
    cases timedOut with
    | false => nofun
    | true =>
      simp only [expectationFailure, if_true]
      cases integerText ms <;> nofun
  | _ => nofun

/-- A timeout that is too long cannot be named, and then the expectation is not what is reported. -/
private theorem expectationFailure_kind (wanted : Visibility) (text : String) (ms : Int)
    (b : BrowserError) :
    (expectationFailure wanted text ms (.browser b)).kind = expectationKinds b.timedOut ↔
      ¬ (b.timedOut = true ∧ isLong ms = true) := by
  obtain ⟨timedOut, _⟩ := b
  cases timedOut with
  | false => exact iff_of_true rfl nofun
  | true =>
    have hm := integerText_unless ms
    simp only [expectationFailure, if_true]
    generalize isLong ms = long, integerText ms = shown at hm
    cases hm with
    | there s => exact iff_of_true rfl (by decide)
    | tooLong =>
      exact iff_of_false (show "ValueError" ≠ "AssertionError" by decide) fun h => h ⟨trivial, rfl⟩

private theorem assertTimeout_short : isLong assertTimeout = false :=
  isLong_of_lt (k := 4) (by decide) (by decide)

/-- An expectation that meets a failure of the browser reports it under its kind, unless its timeout
is too long. -/
private theorem assertState_failure {wanted : Visibility} {text : String} {timeout : Option Int}
    {w w' : World} {b : BrowserError}
    (h : outcome (stateWait wanted text timeout) w = (.error (.browser b), w')) :
    ∃ e, outcome (assertState wanted text timeout) w = (.error e, w') ∧
      (e.kind = expectationKinds b.timedOut ↔
        ¬ (b.timedOut = true ∧ isLong (timeout.getD assertTimeout) = true)) := by
  refine ⟨_, ?_, expectationFailure_kind wanted text (timeout.getD assertTimeout) b⟩
  rw [outcome_assertState, h]
  rfl

private theorem assertState_keeps (wanted : Visibility) (text : String) (timeout : Option Int) :
    KeepsBrowserFailures (assertState wanted text timeout) := by
  intro w w' b h
  rw [outcome_assertState] at h
  rcases hw : outcome (stateWait wanted text timeout) w with ⟨e | _, v⟩ <;> rw [hw] at h
  · exact expectationFailure_ne _ _ _ e b (Except.error.inj (congrArg Prod.fst h))
  · cases h

private theorem haveDirectories_keeps (p : Path) : KeepsBrowserFailures (haveDirectories p) := by
  intro w w' b h
  rw [outcome_haveDirectories] at h
  cases hf : (w.files.haveDirectories p).failure? <;> rw [hf] at h <;> cases h

private theorem ofExcept_keeps {ε α : Type} {wrap : ε → Failure} (h : ∀ e b, wrap e ≠ .browser b)
    (r : Except ε α) : KeepsBrowserFailures (ofExcept wrap r) := by
  cases r with
  | ok x => exact .pure x
  | error e => exact .throw (h e)

private theorem waitForText_reports (s : String) (t : Option Int) :
    Reports elementKinds
      (do
        let _ ← ofExcept .conversion (integerText (t.getD waitTimeout))
        waitFor (.visibleText s) .visible (.int (t.getD waitTimeout)))
      (waitForText s t) :=
  .after (ofExcept_keeps nofun _) (ofExcept_keeps nofun _) id fun _ => locating_reports _ _

private theorem takeScreenshot_reports (directory : Path) (name : String) :
    Reports (fun _ => "EngineError")
      (do
        haveDirectories directory
        screenshot (directory.join (screenshotFileName name)))
      (takeScreenshot directory name) := by
  refine .after (haveDirectories_keeps _) ?_ ?_ fun _ => (driving_reports _ _).andThen fun _ => ?_
  · intro w w' b h
    rw [outcome_tryCatch] at h
    rcases hd : outcome (haveDirectories directory) w with ⟨e | _, v⟩ <;> rw [hd] at h
    · dsimp only at h
      split at h
      · cases h
      · cases h
        exact haveDirectories_keeps directory w w' b hd
    · cases h
  · intro w w' x h
    rw [outcome_tryCatch, h]
  · nofun

/-- All instructions without an expectation about a text or the address report the failures of the
browser. -/
private theorem performInstruction_reports (ctx : Context) {i : Instruction} (h : ¬ i.Expects) :
    Reports i.action.failureKind (pageAccess ctx i) (performInstruction ctx i) := by
  cases i with
  | text action s =>
    cases action with
    | goto | press => exact driving_reports _ _
    | clickButton | clickLink | check | uncheck | hover => exact locating_reports _ _
    | assertUrl => exact (h (.url s)).elim
    | assertEnabled =>
      refine (locating_reports _ _).unasked.andThen fun on => ?_
      split
      · exact .pure ()
      · exact .throw nofun
    | assertDisabled =>
      refine (locating_reports _ _).unasked.andThen fun on => ?_
      split
      · exact .throw nofun
      · exact .pure ()
    | screenshot => exact takeScreenshot_reports _ _
  | await action s t =>
    cases action with
    | waitFor => exact waitForText_reports s t
    | assertVisible => exact (h (.visible s t)).elim
    | assertHidden => exact (h (.hidden s t)).elim
  | fill | fillField | select | clickText | clickSelector => exact locating_reports _ _
  | wait x => exact driving_reports _ _

private theorem misreports_await {action : TextWait} (ha : action ≠ .waitFor) (s : String)
    (t : Option Int) (timedOut : Bool) :
    (Instruction.await action s t).Misreports timedOut ↔
      timedOut = true ∧ isLong (t.getD assertTimeout) = true := by
  have hshort : ¬ (timedOut = true ∧ isLong assertTimeout = true) := fun h =>
    Bool.false_ne_true (assertTimeout_short.symm.trans h.2)
  cases action with
  | waitFor => exact (ha rfl).elim
  | assertVisible | assertHidden =>
    cases t with
    | some n => exact Iff.rfl
    | none => exact iff_of_false id hshort

private theorem currentUrl_failure {ctx : Context} {s : String} {w w' : World} {e : Failure}
    (h : outcome currentUrl w = (.error e, w')) :
    outcome (performInstruction ctx (.text .assertUrl s)) w = (.error e, w') :=
  outcome_bind_error h

/-- What an instruction makes of a failure of the browser. -/
theorem performInstruction_failure {ctx : Context} {i : Instruction} {w w' : World}
    {b : BrowserError} (h : outcome (pageAccess ctx i) w = (.error (.browser b), w')) :
    ∃ e, outcome (performInstruction ctx i) w = (.error e, w') ∧
      (e.kind = i.action.failureKind b.timedOut ↔ ¬ i.Misreports b.timedOut) := by
  by_cases hi : i.Expects
  · cases hi with
    | url s =>
      have hurl : outcome currentUrl w = (.error (.browser b), w') := by
        rw [pageAccess, outcome_bind] at h
        rcases hc : outcome currentUrl w with ⟨e | url, v⟩ <;> rw [hc] at h <;> cases h
        rfl
      refine ⟨.browser b, currentUrl_failure hurl, iff_of_false ?_ fun hn => hn trivial⟩
      obtain ⟨timedOut, _⟩ := b
      cases timedOut
      · exact (by decide : "Error" ≠ "EngineError")
      · exact (by decide : "TimeoutError" ≠ "EngineError")
    | visible s t =>
      rw [misreports_await (show TextWait.assertVisible ≠ .waitFor by decide)]
      exact assertState_failure h
    | hidden s t =>
      rw [misreports_await (show TextWait.assertHidden ≠ .waitFor by decide)]
      exact assertState_failure h
  · obtain ⟨e, he, hk⟩ := (performInstruction_reports ctx hi).reported h
    exact ⟨e, he, iff_of_true hk fun hm => hi hm.expects⟩

/-- A failure of the browser as such is left by the check of the address alone. -/
theorem performInstruction_browser_iff (ctx : Context) (i : Instruction) (w w' : World)
    (b : BrowserError) :
    outcome (performInstruction ctx i) w = (.error (.browser b), w') ↔
      i.action = .text .assertUrl ∧ outcome currentUrl w = (.error (.browser b), w') := by
  by_cases hi : i.Expects
  · cases hi with
    | url s =>
      refine ⟨fun h => ⟨rfl, ?_⟩, fun h => currentUrl_failure h.2⟩
      rcases hc : outcome currentUrl w with ⟨e | url, v⟩
      · rw [currentUrl_failure hc] at h
        cases h
        rfl
      · rw [performInstruction, outcome_assertUrl ctx s url hc] at h
        split at h <;> cases h
    | visible s t =>
      exact iff_of_false (assertState_keeps .visible s t w w' b) fun h => nomatch h.1
    | hidden s t =>
      exact iff_of_false (assertState_keeps .hidden s t w w' b) fun h => nomatch h.1
  · refine iff_of_false ((performInstruction_reports ctx hi).keeps w w' b) fun h => ?_
    cases i with
    | text action s =>
      cases h.1
      exact hi (.url s)
    | _ => nomatch h.1

/-- An instruction that meets a failure of the browser fails there and then, under the kind for its
action, unless it is the check of the address or an expectation with a timeout that is too long. A
failure of the browser as such is left by the check of the address alone. -/
theorem perform_browserFailure (ctx : Context) (i : Instruction) (w : World) :
    (∀ b w', outcome (pageAccess ctx (i.substitute ctx.vars)) w = (.error (.browser b), w') →
      ∃ e, outcome (perform ctx (.known i)) w = (.error e, w') ∧
        (e.kind = i.action.failureKind b.timedOut ↔ ¬ i.Misreports b.timedOut)) ∧
    ∀ b w', outcome (perform ctx (.known i)) w = (.error (.browser b), w') ↔
      i.action = .text .assertUrl ∧ outcome currentUrl w = (.error (.browser b), w') := by
  rw [← i.action_substitute ctx.vars]
  refine ⟨fun b w' h => ?_, fun b w' => performInstruction_browser_iff ctx _ w w' b⟩
  rw [← i.misreports_substitute ctx.vars]
  exact performInstruction_failure h

def faultyWorld (op : PageOp) (b : BrowserError) : World where
  page := { url := "https://shop.test/cart", faults := [⟨op, .browser b, 1, 0⟩] }
  files := ⟨[], []⟩
  picks := ⟨[0], 0⟩

/-- A key that cannot be pressed in time is a fault of the engine. -/
theorem perform_browserFailure_press :
    ∃ e w', outcome (perform { screenshots := Path.ofString "shots" }
        (.known (.text .press "Enter"))) (faultyWorld .press ⟨true, "Timeout"⟩) = (.error e, w') ∧
      e.kind = "EngineError" := by
  obtain ⟨hfailure, _⟩ := perform_browserFailure { screenshots := Path.ofString "shots" }
    (.text .press "Enter") (faultyWorld .press ⟨true, "Timeout"⟩)
  obtain ⟨e, he, hk⟩ := hfailure ⟨true, "Timeout"⟩ _ rfl
  exact ⟨e, _, he, hk.mpr id⟩

/-- Failures of the browser are not always reported under the kind for the action: the address of a
page that crashed is one that is not. -/
theorem address_unreported :
    ¬ ∀ raw i, Step.parse raw = .ok (.known i) → ∀ ctx w b w',
      outcome (pageAccess ctx (i.substitute ctx.vars)) w = (.error (.browser b), w') →
      ∃ e, outcome (perform ctx (.known i)) w = (.error e, w') ∧
        e.kind = i.action.failureKind b.timedOut := by
  intro hall
  obtain ⟨e, he, hk⟩ := hall (.map [(.text "assert_url", .text "/cart")])
    (.text .assertUrl "/cart") rfl { screenshots := Path.ofString "shots" }
    (faultyWorld .url ⟨false, "Page crashed"⟩) ⟨false, "Page crashed"⟩ _ rfl
  cases he
  exact absurd hk (by decide)

end FeatureRun.Run
