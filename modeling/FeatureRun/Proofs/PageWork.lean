import FeatureRun.Proofs.Outcome

/-!
Work on the page. All that a scenario does is put together from a few parts that see the page and
the files alone and let interrupts pass. What holds of these parts, and of the ways in which they
are put together, holds of every scenario.
-/
namespace FeatureRun.Run
open FeatureRun.Text FeatureRun.Number FeatureRun.Data FeatureRun.Files FeatureRun.Spec
open FeatureRun.Browser
open scoped FeatureRun.CoreInstances

variable {α β : Type}

/-- The part sees the page alone: it looks at the page, changes it, calls its operations other than
the screenshot, and handles no interrupt. -/
inductive Paged : {α : Type} → Run α → Prop
  | value {α : Type} (x : α) : Paged (pure x : Run α)
  | fail {α : Type} {e : Failure} : e.isInterrupt = false → Paged (throw e : Run α)
  | andThen {α β : Type} {r : Run α} {f : α → Run β} :
      Paged r → (∀ x, Paged (f x)) → Paged (r >>= f)
  | handle {α : Type} {r : Run α} {h : Failure → Run α} :
      Paged r → (∀ e, e.isInterrupt = false → Paged (h e)) →
      (∀ e, e.isInterrupt = true → h e = throw e) → Paged (tryCatch r h)
  | look {α : Type} {k : Page → Run α} : (∀ p, Paged (k p)) → Paged (get >>= fun w => k w.page)
  | call {c : Call} :
      c.op ≠ .screenshot → Paged (modify fun w => { w with calls := w.calls ++ [c] })
  | change {f : Page → Page} : (∀ p, (f p).faults = p.faults) → Paged (changePage f)
  | meet (op : PageOp) : Paged (meetFault op)

/-- What holds of a handler for failures that are no interrupt, and of failing, holds of one that
passes the others on. -/
theorem of_handler {P : Run α → Prop} {h : Failure → Run α}
    (hh : ∀ e, e.isInterrupt = false → P (h e)) (hi : ∀ e, e.isInterrupt = true → h e = throw e)
    (hthrow : ∀ e, P (throw e)) (e : Failure) : P (h e) := by
  cases he : e.isInterrupt with
  | false => exact hh e he
  | true =>
    rw [hi e he]
    exact hthrow e

namespace Paged

theorem ofExcept {ε : Type} {wrap : ε → Failure} (hw : ∀ e, (wrap e).isInterrupt = false)
    (r : Except ε α) : Paged (ofExcept wrap r) := by
  cases r with
  | ok x => exact .value x
  | error e => exact .fail (hw e)

theorem record {c : Call} (hc : c.op ≠ .screenshot) {act : Run α} (h : Paged act) :
    Paged (record c act) :=
  .andThen (.call hc) fun _ => .andThen (.meet c.op) fun _ => h

private theorem timeout_ordinary (timeout : Value) (waiting : String) :
    (timeoutError timeout waiting).isInterrupt = false := by
  unfold timeoutError
  split <;> rfl

private theorem seen_eq (l : Locator) (timeout : Value) :
    Browser.seen l timeout = get >>= fun w => ((w.page.first? l).filter (·.visible)).elim
      (throw (timeoutError timeout ("waiting for " ++ l.text)) : Run Element) pure := by
  unfold Browser.seen
  congr 1
  funext w
  cases (w.page.first? l).filter (·.visible) <;> rfl

theorem seen (l : Locator) (timeout : Value) : Paged (seen l timeout) := by
  rw [seen_eq]
  apply look (k := fun p => ((p.first? l).filter (·.visible)).elim
    (throw (timeoutError timeout ("waiting for " ++ l.text)) : Run Element) pure)
  intro p
  cases (p.first? l).filter (·.visible) with
  | none => exact .fail (timeout_ordinary _ _)
  | some e => exact .value e

private theorem apply_faults (p : Page) (e : Effect) : (p.apply e).faults = p.faults := by
  cases e <;> rfl

theorem effects_faults (es : List Effect) (p : Page) :
    (es.foldl Page.apply p).faults = p.faults := by
  induction es generalizing p with
  | nil => rfl
  | cons e es ih => rw [List.foldl_cons, ih, apply_faults]

theorem click (l : Locator) (timeout : Value) : Paged (click l timeout) :=
  record (by nofun) (.andThen (seen l timeout) fun e => .change (effects_faults e.onClick))

theorem hover (l : Locator) (timeout : Value) : Paged (hover l timeout) :=
  record (by nofun) (.andThen (seen l timeout) fun _ => .value ())

theorem update (l : Locator) (f : Element → Element) :
    Paged (changePage fun p => p.update l f) := .change fun _ => rfl

theorem fill (l : Locator) (value : String) (timeout : Value) : Paged (fill l value timeout) :=
  record (by nofun) (.andThen (seen l timeout) fun _ => update l _)

theorem check (l : Locator) (timeout : Value) : Paged (check l timeout) :=
  record (by nofun) (.andThen (seen l timeout) fun _ => update l _)

theorem uncheck (l : Locator) (timeout : Value) : Paged (uncheck l timeout) :=
  record (by nofun) (.andThen (seen l timeout) fun _ => update l _)

theorem selectOption (l : Locator) (option : String) (timeout : Value) :
    Paged (selectOption l option timeout) := by
  refine record (by nofun) ?_
  apply andThen (seen l timeout)
  intro e
  split
  · exact update l _
  · exact .fail (timeout_ordinary _ _)

theorem isEnabled (l : Locator) (timeout : Value) : Paged (isEnabled l timeout) :=
  record (by nofun) (.andThen (seen l timeout) fun e => .value e.enabled)

theorem waitFor (l : Locator) (wanted : Visibility) (timeout : Value) :
    Paged (waitFor l wanted timeout) := by
  refine record (by nofun) ?_
  apply look (k := fun p => if p.meets l wanted then (pure () : Run Unit)
    else throw
      (timeoutError timeout ("waiting for " ++ l.text ++ " to be " ++ wanted.name)))
  intro p
  split
  · exact .value ()
  · exact .fail (timeout_ordinary _ _)

theorem press (key : String) : Paged (press key) := by
  refine record (by nofun) ?_
  apply look (k := fun p => if p.keys.contains key then (pure () : Run Unit)
    else throw (.browser ⟨false, "Unknown key: \"" ++ key ++ "\""⟩))
  intro p
  split
  · exact .value ()
  · exact .fail rfl

theorem goto (url : String) (timeout : Value) : Paged (goto url timeout) := by
  refine record (by nofun) ?_
  apply look (k := fun p => if p.badUrls.contains url then
      (throw
        (.browser ⟨false, "net::ERR_NAME_NOT_RESOLVED at " ++ url ++ "\nCall log: navigating"⟩) :
        Run Unit)
    else changePage fun p => { p with url := url })
  intro p
  split
  · exact .fail rfl
  · exact .change fun _ => rfl

theorem waitForTimeout (milliseconds : Value) : Paged (waitForTimeout milliseconds) :=
  record (by nofun) (.value ())

theorem currentUrl : Paged currentUrl :=
  .andThen (.meet .url) fun _ => .look (k := fun p => pure p.url) fun p => .value p.url

/-- A handler that gives every failure that is no browser's back. -/
private theorem handleBrowser {r : Run α} {h : Failure → Run α} (hr : Paged r)
    (hb : ∀ b, Paged (h (.browser b))) (ho : ∀ e, (∀ b, e ≠ .browser b) → h e = throw e) :
    Paged (tryCatch r h) := by
  apply handle hr
  · intro e he
    by_cases hx : ∃ b, e = .browser b
    · obtain ⟨b, rfl⟩ := hx
      exact hb b
    · rw [ho e fun b hb => hx ⟨b, hb⟩]
      exact .fail he
  · rintro e he
    apply ho
    rintro b rfl
    cases he

theorem locating (doing : String) {body : Run α} (h : Paged body) :
    Paged (locating doing body) := by
  apply handleBrowser h
  · intro b
    dsimp only
    split <;> exact .fail rfl
  · intro e he
    split
    · exact absurd rfl (he _)
    · rfl

theorem driving (doing : String) {body : Run α} (h : Paged body) :
    Paged (driving doing body) := by
  apply handleBrowser h
  · exact fun _ => .fail rfl
  · intro e he
    split
    · exact absurd rfl (he _)
    · rfl

theorem assertState (wanted : Visibility) (text : String) (timeout : Option Int) :
    Paged (assertState wanted text timeout) := by
  apply handleBrowser (waitFor _ _ _)
  · intro b
    dsimp only
    split
    · exact .andThen (ofExcept (fun _ => rfl) _) fun _ => .fail rfl
    · exact .fail rfl
  · intro e he
    split
    · exact absurd rfl (he _)
    · rfl

theorem waitForText (text : String) (timeout : Option Int) : Paged (waitForText text timeout) :=
  .andThen (ofExcept (fun _ => rfl) _) fun _ => locating _ (waitFor _ _ _)

theorem buttonEnabled (name : String) (timeout : Value) : Paged (buttonEnabled name timeout) :=
  locating _ (isEnabled _ _)

theorem performText (ctx : Context) {action : TextAction} (h : action ≠ .screenshot) (s : String) :
    Paged (performText ctx action s) := by
  cases action with
  | goto => exact driving _ (goto _ _)
  | clickButton | clickLink => exact locating _ (click _ _)
  | check => exact locating _ (check _ _)
  | uncheck => exact locating _ (uncheck _ _)
  | hover => exact locating _ (hover _ _)
  | press => exact driving _ (press _)
  | assertUrl =>
    refine .andThen currentUrl fun _ => ?_
    split
    · exact .value ()
    · exact .fail rfl
  | assertEnabled =>
    refine .andThen (buttonEnabled _ _) fun _ => ?_
    split
    · exact .value ()
    · exact .fail rfl
  | assertDisabled =>
    refine .andThen (buttonEnabled _ _) fun _ => ?_
    split
    · exact .fail rfl
    · exact .value ()
  | screenshot => exact absurd rfl h

/-- Every instruction but a screenshot sees the page alone. -/
theorem performInstruction (ctx : Context) {i : Instruction} (h : i.action ≠ .text .screenshot) :
    Paged (performInstruction ctx i) := by
  cases i with
  | text action s => exact performText ctx (fun ha => h (congrArg Action.text ha)) s
  | await action s t =>
    cases action with
    | waitFor => exact waitForText s t
    | assertVisible | assertHidden => exact assertState _ s t
  | fill | fillField => exact locating _ (fill _ _ _)
  | select => exact locating _ (selectOption _ _ _)
  | clickText | clickSelector => exact locating _ (click _ _)
  | wait => exact driving _ (waitForTimeout _)

end Paged

/-- The part sees no more than the page and the files, leaves the session and the outcomes alone,
and handles no interrupt. -/
inductive PageWork : {α : Type} → Run α → Prop
  | value {α : Type} (x : α) : PageWork (pure x : Run α)
  | fail {α : Type} {e : Failure} : e.isInterrupt = false → PageWork (throw e : Run α)
  | andThen {α β : Type} {r : Run α} {f : α → Run β} :
      PageWork r → (∀ x, PageWork (f x)) → PageWork (r >>= f)
  | handle {α : Type} {r : Run α} {h : Failure → Run α} :
      PageWork r → (∀ e, e.isInterrupt = false → PageWork (h e)) →
      (∀ e, e.isInterrupt = true → h e = throw e) → PageWork (tryCatch r h)
  | look {α : Type} {k : Page → Tree → Run α} :
      (∀ p t, PageWork (k p t)) → PageWork (get >>= fun w => k w.page w.files)
  | say (n : Notice) : PageWork (say n)
  | call (c : Call) : PageWork (modify fun w => { w with calls := w.calls ++ [c] })
  | change {f : Page → Page} : (∀ p, (f p).faults = p.faults) → PageWork (changePage f)
  | meet (op : PageOp) : PageWork (meetFault op)
  | keep (t : Tree) : PageWork (modify fun w => { w with files := t })

namespace PageWork

theorem ofPaged {r : Run α} (h : Paged r) : PageWork r := by
  induction h with
  | value x => exact .value x
  | fail he => exact .fail he
  | andThen _ _ ihr ihf => exact .andThen ihr ihf
  | handle _ _ hi ihr ihh => exact .handle ihr ihh hi
  | @look _ k _ ih => exact .look (k := fun p _ => k p) fun p _ => ih p
  | @call c _ => exact .call c
  | change hf => exact .change hf
  | meet op => exact .meet op

theorem ofExcept {ε : Type} {wrap : ε → Failure} (hw : ∀ e, (wrap e).isInterrupt = false)
    (r : Except ε α) : PageWork (ofExcept wrap r) := ofPaged (.ofExcept hw r)

theorem screenshot (path : Path) : PageWork (screenshot path) := by
  refine .andThen (.call _) fun _ => .andThen (.meet _) fun _ => ?_
  apply look (k := fun _ t => do
    let files ← Run.ofExcept .file (t.write path imageContent)
    modify fun w => { w with files := files })
  intro _ t
  exact .andThen (ofExcept (fun _ => rfl) _) .keep

private theorem haveDirectories_eq (path : Path) :
    Run.haveDirectories path = (get >>= fun w =>
      (modify fun w' => { w' with files := (w.files.haveDirectories path).tree }) >>= fun _ =>
        (w.files.haveDirectories path).failure?.elim (pure ()) fun e => throw (.file e)) := by
  unfold Run.haveDirectories
  refine bind_congr fun w => bind_congr fun _ => ?_
  cases (w.files.haveDirectories path).failure? <;> rfl

theorem haveDirectories (path : Path) : PageWork (haveDirectories path) := by
  rw [haveDirectories_eq]
  apply look (k := fun _ t => do
    modify fun w => { w with files := (t.haveDirectories path).tree }
    (t.haveDirectories path).failure?.elim (pure () : Run Unit) fun e => throw (.file e))
  intro _ t
  refine .andThen (.keep _) fun _ => ?_
  cases (t.haveDirectories path).failure? with
  | none => exact .value ()
  | some e => exact .fail rfl

theorem driving (doing : String) {body : Run α} (h : PageWork body) :
    PageWork (driving doing body) := by
  refine .handle h ?_ ?_
  · intro e he
    split
    · exact .fail rfl
    · exact .fail he
  · intro e he
    split
    · cases he
    · rfl

theorem takeScreenshot (directory : Path) (name : String) :
    PageWork (takeScreenshot directory name) := by
  refine .andThen (.handle (haveDirectories directory) ?_ ?_) fun _ =>
    .andThen (driving _ (screenshot _)) fun _ => .say _
  · intro e he
    split
    · exact .fail rfl
    · exact .fail he
  · intro e he
    split
    · cases he
    · rfl

theorem performInstruction (ctx : Context) (i : Instruction) :
    PageWork (performInstruction ctx i) := by
  by_cases h : i.action = .text .screenshot
  · cases i with
    | text action s =>
      cases h
      exact takeScreenshot _ _
    | _ => cases h
  · exact ofPaged (.performInstruction ctx h)

theorem perform (ctx : Context) (step : Step) : PageWork (perform ctx step) := by
  cases step with
  | known i => exact performInstruction ctx _
  | unknown => exact .fail rfl

theorem runSteps (ctx : Context) (steps : List Step) : PageWork (runSteps ctx steps) := by
  induction steps with
  | nil => exact .value ()
  | cons step rest ih =>
    exact .andThen (ofExcept (fun _ => rfl) _) fun _ => .andThen (.say _) fun _ =>
      .andThen (perform ctx step) fun _ => ih

theorem rescue {body : Run α} {h : Failure → Run α} (hb : PageWork body)
    (hh : ∀ e, PageWork (h e)) : PageWork (rescue body h) := by
  apply handle hb
  · intro e he
    simpa [he] using hh e
  · intro e he
    simp [he]

theorem captureFailure (path : Path) : PageWork (captureFailure path) :=
  rescue (.andThen (haveDirectories _) fun _ => .andThen (screenshot _) fun _ => .value _)
    fun _ => .andThen (.say _) fun _ => .value _

theorem runScenario (ctx : Context) (scenario : Scenario) (shot : Path) :
    PageWork (runScenario ctx scenario shot) :=
  .andThen (.say _) fun _ =>
    rescue (.andThen (runSteps ctx _) fun _ => .andThen (.say _) fun _ => .value _)
      fun _ => .andThen (captureFailure shot) fun _ => .andThen (.say _) fun _ => .value _

end PageWork

/-- The page, the calls, the files and the notices of a world, and all else of another. -/
def World.within (w v : World) : World :=
  { v with page := w.page, calls := w.calls, files := w.files, notices := w.notices }

@[simp] theorem World.within_self (w : World) : w.within w = w := rfl

def interrupted : Except Failure α → Bool
  | .ok _ => false
  | .error e => e.isInterrupt

/-- How many more times a page is set to interrupt. A number that is not positive may stand for
interrupts without end, but each one that is raised lowers it by one. -/
def interruptsLeft (faults : List PageFault) : Int :=
  (faults.map fun f => if f.failure.isInterrupt then f.times else 0).sum

private theorem interruptsLeft_cons (f : PageFault) (fs : List PageFault) :
    interruptsLeft (f :: fs) =
      (if f.failure.isInterrupt then f.times else 0) + interruptsLeft fs := by
  simp [interruptsLeft]

private theorem takeFault_left (op : PageOp) (faults : List PageFault) :
    interruptsLeft (takeFault op faults).2 =
      interruptsLeft faults - if (takeFault op faults).1.any (·.isInterrupt) then 1 else 0 := by
  induction faults with
  | nil => rfl
  | cons f fs ih =>
    unfold takeFault
    split
    · split
      · simp only [interruptsLeft_cons, Option.any_some]
        split <;> omega
      · simp only [interruptsLeft_cons, ih]
        omega
    · simp only [interruptsLeft_cons, ih]
      omega

private theorem takeFault_failures (op : PageOp) (faults : List PageFault) :
    (takeFault op faults).2.map (·.failure) = faults.map (·.failure) := by
  induction faults with
  | nil => rfl
  | cons f fs ih =>
    unfold takeFault
    split
    · split
      · rfl
      · simp only [List.map_cons, ih]
    · simp only [List.map_cons, ih]

theorem outcome_meetFault (op : PageOp) (w : World) :
    outcome (meetFault op) w =
      (match (takeFault op w.page.faults).1 with
        | some e => .error e
        | none => .ok (),
      { w with page := { w.page with faults := (takeFault op w.page.faults).2 } }) := by
  simp only [meetFault, outcome_bind, outcome_get, outcome_set]
  cases (takeFault op w.page.faults).1 <;> rfl

namespace PageWork

/-- Work on the page goes on alike within any session and leaves the session as it was. -/
theorem within {r : Run α} (h : PageWork r) (w v : World) :
    outcome r (w.within v) = ((outcome r w).1, (outcome r w).2.within v) := by
  induction h generalizing w with
  | value x => rfl
  | fail _ => rfl
  | andThen _ _ ihr ihf =>
    rw [outcome_bind, ihr, outcome_bind]
    rcases outcome _ w with ⟨e | x, w'⟩
    · rfl
    · exact ihf x w'
  | handle _ _ hi ihr ihh =>
    rw [outcome_tryCatch, ihr, outcome_tryCatch]
    rcases outcome _ w with ⟨e | x, w'⟩
    · cases he : e.isInterrupt with
      | false => exact ihh e he w'
      | true => simp only [hi e he, outcome_throw]
    · rfl
  | look _ ih => exact ih w.page w.files w
  | say n => rfl
  | call c => rfl
  | change _ => rfl
  | meet op => rw [outcome_meetFault, outcome_meetFault]; rfl
  | keep t => rfl

/-- Work on the page ends by an interrupt exactly if the page raised one in the course of it. -/
theorem interrupted_iff {r : Run α} (h : PageWork r) (w : World) :
    interruptsLeft (outcome r w).2.page.faults =
      interruptsLeft w.page.faults - if interrupted (outcome r w).1 then 1 else 0 := by
  induction h generalizing w with
  | value x => simp [interrupted]
  | fail he => simp [interrupted, he]
  | @andThen _ _ r f _ _ ihr ihf =>
    have hr := ihr w
    rw [outcome_bind]
    rcases ho : outcome r w with ⟨e | x, w'⟩
    · rw [ho] at hr
      exact hr
    · rw [ho] at hr
      simp only [interrupted, Bool.false_eq_true, if_false, Int.sub_zero] at hr
      rw [ihf x w', hr]
  | @handle _ r k _ _ hi ihr ihh =>
    have hr := ihr w
    rw [outcome_tryCatch]
    rcases ho : outcome r w with ⟨e | x, w'⟩
    · rw [ho] at hr
      cases he : e.isInterrupt with
      | false =>
        simp only [interrupted, he, Bool.false_eq_true, if_false, Int.sub_zero] at hr
        rw [ihh e he w', hr]
      | true =>
        simpa only [hi e he, outcome_throw] using hr
    · rw [ho] at hr
      exact hr
  | look _ ih => exact ih w.page w.files w
  | say n => simp [interrupted]
  | call c => simp [interrupted]
  | change hf => simp [interrupted, changePage, hf]
  | meet op =>
    rw [outcome_meetFault]
    simp only [takeFault_left]
    cases (takeFault op w.page.faults).1 <;> rfl
  | keep t => simp [interrupted]

/-- Work on the page leaves it set to fail in the same ways. -/
theorem failures {r : Run α} (h : PageWork r) (w : World) :
    (outcome r w).2.page.faults.map (·.failure) = w.page.faults.map (·.failure) := by
  induction h generalizing w with
  | value x => rfl
  | fail he => rfl
  | @andThen _ _ r f _ _ ihr ihf =>
    have hr := ihr w
    rw [outcome_bind]
    rcases ho : outcome r w with ⟨e | x, w'⟩ <;> rw [ho] at hr
    · exact hr
    · rw [ihf x w', hr]
  | @handle _ r k _ _ hi ihr ihh =>
    have hr := ihr w
    rw [outcome_tryCatch]
    rcases ho : outcome r w with ⟨e | x, w'⟩ <;> rw [ho] at hr
    · cases he : e.isInterrupt with
      | false => rw [ihh e he w', hr]
      | true => simpa only [hi e he, outcome_throw] using hr
    · exact hr
  | look _ ih => exact ih w.page w.files w
  | say n => rfl
  | call c => rfl
  | change hf => simp [changePage, hf]
  | meet op => rw [outcome_meetFault]; exact takeFault_failures op _
  | keep t => rfl

end PageWork

def Calm (p : Page) : Prop := ∀ e ∈ p.faults.map (·.failure), e.isInterrupt = false

theorem Calm.interruptsLeft {p : Page} (h : Calm p) : interruptsLeft p.faults = 0 := by
  obtain ⟨url, elements, badUrls, keys, faults⟩ := p
  induction faults with
  | nil => rfl
  | cons f fs ih =>
    have hf : f.failure.isInterrupt = false := h _ List.mem_cons_self
    have hfs := ih fun e he => h e (List.mem_cons_of_mem _ he)
    rw [interruptsLeft_cons, hf, hfs]
    rfl

theorem PageWork.calm {r : Run α} (h : PageWork r) {w : World} (hw : Calm w.page) :
    interrupted (outcome r w).1 = false ∧ Calm (outcome r w).2.page := by
  have hc : Calm (outcome r w).2.page := by
    rw [Calm, h.failures]
    exact hw
  refine ⟨?_, hc⟩
  have hi := h.interrupted_iff w
  rw [hw.interruptsLeft, hc.interruptsLeft] at hi
  cases hb : interrupted (outcome r w).1 with
  | false => rfl
  | true => simp [hb] at hi

def World.inSession (w v : World) : World :=
  { w with events := v.events, failing := v.failing, defaultTimeout := v.defaultTimeout }

theorem World.session_eq {w v : World} (h : w.inSession v = w) :
    w.failing = v.failing ∧ w.events = v.events := by
  rw [← h]
  exact ⟨rfl, rfl⟩

/-- Work on the page goes on alike in any session. -/
theorem PageWork.inSession {r : Run α} (h : PageWork r) (w v : World) :
    outcome r (w.inSession v) = ((outcome r w).1, (outcome r w).2.inSession v) := by
  have hv := h.within w (w.inSession v)
  have hw := h.within w w
  rw [World.within_self] at hw
  refine hv.trans ?_
  rw [hw]
  rfl

end FeatureRun.Run
