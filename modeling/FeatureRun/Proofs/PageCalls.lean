import FeatureRun.Proofs.BrowserFailures
import FeatureRun.Proofs.PageWork
import FeatureRun.Proofs.TraceLines

/-!
The calls of the instructions. Each instruction makes the one call that the table of the actions
lists for it, whatever the page is and whatever comes of the call, and what it fails by is never
that a value lacks what is asked of it.
-/
namespace FeatureRun.Browser
open FeatureRun.Data

def Call.timeout? : Call → Option Value
  | .click _ t | .hover _ t | .fill _ _ t | .check _ t | .uncheck _ t | .selectOption _ _ t
  | .isEnabled _ t | .waitFor _ _ t | .goto _ _ t => some t
  | .press _ | .waitForTimeout _ | .screenshot _ _ => none

end FeatureRun.Browser

namespace FeatureRun.Run
open FeatureRun.Text FeatureRun.Number FeatureRun.Data FeatureRun.Files FeatureRun.Spec
open FeatureRun.Browser

/-- A value lacked what was asked of it, or was of another type. -/
inductive Failure.OfShape : Failure → Prop
  | notSuch : OfShape .notSuch
  | wrongType : OfShape (.cast .wrongType)
  | noKey : OfShape (.cast .noKey)
  | badKey (kind : String) : OfShape (.json (.badKey kind))

theorem Failure.ofShape_iff (e : Failure) :
    e.OfShape ↔ e.kind ∈ ["AttributeError", "TypeError", "KeyError"] := by
  constructor
  · rintro (_ | _ | _ | _) <;> simp [kind, castKind]
  · intro h
    cases e with
    | notSuch => exact .notSuch
    | json j =>
      cases j with
      | badKey kind => exact .badKey kind
      | circular | tooDeep => simp [kind] at h
      | conversion c => cases c <;> simp [kind, castKind, ConversionError.isOverflow] at h
    | cast c =>
      cases c with
      | conversion c => cases c <;> simp [kind, castKind, ConversionError.isOverflow] at h
      | wrongType => exact .wrongType
      | noKey => exact .noKey
      | noIndex => simp [kind, castKind] at h
    | browser b => cases hb : b.timedOut <;> simp [kind, BrowserError.kind, hb] at h
    | file f =>
      cases f with
      | nullByte => simp [kind, fileKind] at h
      | file f => cases hf : f.cause <;> simp [kind, fileKind, hf] at h
    | codePoint n => by_cases hn : n ≤ lastWrittenCode <;> simp [kind, hn] at h
    | load l =>
      cases l with
      | spec e => cases e <;> simp [kind, LoadError.kind] at h
      | _ => simp [kind, LoadError.kind] at h
    | _ => simp [kind] at h

section Acts
variable {α β : Type} {made : Tree → List Call} {calls : List Call}

/-- The part makes these calls, whatever comes of them, and fails by a value that lacks something
only if the page is set to raise that. -/
structure Acts (made : Tree → List Call) (r : Run α) : Prop where
  calls : ∀ w, (outcome r w).2.calls = w.calls ++ made w.files
  faults : ∀ w, (outcome r w).2.page.faults.map (·.failure) = w.page.faults.map (·.failure)
  raised : ∀ {w w' e}, outcome r w = (.error e, w') → e.OfShape →
    e ∈ w.page.faults.map (·.failure)

abbrev Silent (r : Run α) : Prop := Acts (fun _ => []) r

namespace Acts

/-- The second part makes its calls if the first succeeds. -/
theorem bind {first : Tree → List Call} {r : Run α} {f : α → Run β} (hr : Acts first r)
    (hf : ∀ x, Acts (fun _ => calls) (f x))
    (hmade : ∀ w, made w.files =
      first w.files ++ if (outcome r w).1.toOption.isSome then calls else []) :
    Acts made (r >>= f) where
  calls w := by
    have hfirst := hr.calls w
    have hall := hmade w
    rw [outcome_bind]
    rcases ho : outcome r w with ⟨e | x, w'⟩ <;> rw [ho] at hfirst hall
    · rw [hall, hfirst]
      exact congrArg _ (List.append_nil _).symm
    · rw [hall, (hf x).calls w', hfirst, List.append_assoc]
      rfl
  faults w := by
    have hfirst := hr.faults w
    rw [outcome_bind]
    rcases ho : outcome r w with ⟨e | x, w'⟩ <;> rw [ho] at hfirst
    · exact hfirst
    · exact ((hf x).faults w').trans hfirst
  raised := by
    intro w w' e h hshape
    have hfirst := hr.faults w
    rw [outcome_bind] at h
    rcases ho : outcome r w with ⟨e' | x, v⟩ <;> rw [ho] at h hfirst
    · cases h
      exact hr.raised ho hshape
    · exact hfirst ▸ (hf x).raised h hshape

/-- Nothing is called behind the calls. -/
theorem andThen {r : Run α} {f : α → Run β} (hr : Acts made r) (hf : ∀ x, Silent (f x)) :
    Acts made (r >>= f) := by
  refine hr.bind hf fun w => ?_
  rw [ite_self, List.append_nil]

/-- The calls are made if nothing fails before them. -/
theorem behind {r : Run α} {f : α → Run β} (hr : Silent r) (hf : ∀ x, Acts (fun _ => calls) (f x))
    (hmade : ∀ w, made w.files = if (outcome r w).1.toOption.isSome then calls else []) :
    Acts made (r >>= f) :=
  hr.bind hf hmade

/-- A failure is handled without calls, and handed on if it is one of shape. -/
private theorem handled {r : Run α} {handle : Failure → Run α} (hr : Acts made r)
    (hpass : ∀ e, e.OfShape → handle e = throw e) (hquiet : ∀ e, ¬ e.OfShape → Silent (handle e)) :
    Acts made (tryCatch r handle) := by
  -- a failure of shape is thrown again in the world where it was met
  have hkeeps (e : Failure) (w : World) : (outcome (handle e) w).2.calls = w.calls ∧
      (outcome (handle e) w).2.page.faults.map (·.failure) = w.page.faults.map (·.failure) := by
    by_cases he : e.OfShape
    · rw [hpass e he]
      exact ⟨rfl, rfl⟩
    · exact ⟨((hquiet e he).calls w).trans (List.append_nil _), (hquiet e he).faults w⟩
  refine ⟨fun w => ?_, fun w => ?_, ?_⟩
  · have hfirst := hr.calls w
    rw [outcome_tryCatch]
    rcases ho : outcome r w with ⟨e | x, w'⟩ <;> rw [ho] at hfirst
    · exact (hkeeps e w').1.trans hfirst
    · exact hfirst
  · have hfirst := hr.faults w
    rw [outcome_tryCatch]
    rcases ho : outcome r w with ⟨e | x, w'⟩ <;> rw [ho] at hfirst
    · exact (hkeeps e w').2.trans hfirst
    · exact hfirst
  · intro w w' e h hshape
    have hfirst := hr.faults w
    rw [outcome_tryCatch] at h
    rcases ho : outcome r w with ⟨e' | x, v⟩ <;> rw [ho] at h hfirst
    · by_cases he : e'.OfShape
      · simp only [hpass e' he, outcome_throw] at h
        cases h
        exact hr.raised ho hshape
      · exact hfirst ▸ (hquiet e' he).raised h hshape
    · cases h

theorem value (x : α) : Silent (pure x : Run α) where
  calls _ := (List.append_nil _).symm
  faults _ := rfl
  raised h := nomatch h

theorem fail {e : Failure} (he : ¬ e.OfShape) : Silent (throw e : Run α) where
  calls _ := (List.append_nil _).symm
  faults _ := rfl
  raised h hshape := by
    cases h
    exact absurd hshape he

theorem ofExcept {ε : Type} {wrap : ε → Failure} (hw : ∀ e, ¬ (wrap e).OfShape) (r : Except ε α) :
    Silent (ofExcept wrap r) := by
  cases r with
  | ok x => exact value x
  | error e => exact fail (hw e)

theorem look {k : World → Run α} (h : ∀ w, Acts made (k w)) : Acts made (get >>= k) where
  calls w := (h w).calls w
  faults w := (h w).faults w
  raised := by
    intro w w' e he hshape
    exact (h w).raised he hshape

theorem change {f : Page → Page} (hf : ∀ p, (f p).faults = p.faults) : Silent (changePage f) where
  calls _ := (List.append_nil _).symm
  faults w := congrArg _ (hf w.page)
  raised h := nomatch h

theorem keep (f : World → Tree) : Silent (modify fun w => { w with files := f w }) where
  calls _ := (List.append_nil _).symm
  faults _ := rfl
  raised h := nomatch h

theorem say (n : Notice) : Silent (say n) where
  calls _ := (List.append_nil _).symm
  faults _ := rfl
  raised h := nomatch h

private theorem takeFault_mem {op : PageOp} {faults : List PageFault} {e : Failure}
    (h : (takeFault op faults).1 = some e) : e ∈ faults.map (·.failure) := by
  induction faults with
  | nil => cases h
  | cons f fs ih =>
    unfold takeFault at h
    split at h
    · split at h
      · cases h
        exact List.mem_cons_self
      · exact List.mem_cons_of_mem _ (ih h)
    · exact List.mem_cons_of_mem _ (ih h)

theorem meet (op : PageOp) : Silent (meetFault op) where
  calls w := by
    rw [outcome_meetFault, List.append_nil]
  faults w := (PageWork.meet op).failures w
  raised := by
    intro w w' e h _
    rw [outcome_meetFault] at h
    split at h <;> cases h
    exact takeFault_mem ‹_›

/-- An operation makes its call, and then it meets faults and acts. -/
theorem record {c : Call} {act : Run α} (h : Silent act) : Acts (fun _ => [c]) (record c act) := by
  have hcall : Acts (fun _ => [c])
      (modify fun w => { w with calls := w.calls ++ [c] } : Run Unit) :=
    ⟨fun _ => rfl, fun _ => rfl, fun he => nomatch he⟩
  exact hcall.andThen fun _ => (meet c.op).andThen fun _ => h

private theorem timeoutError_ordinary (timeout : Value) (waiting : String) :
    ¬ (timeoutError timeout waiting).OfShape := by
  unfold timeoutError
  split <;> nofun

theorem seen (l : Locator) (timeout : Value) : Silent (seen l timeout) := by
  refine look fun w => ?_
  split
  · exact value _
  · exact fail (timeoutError_ordinary _ _)

theorem click (l : Locator) (timeout : Value) :
    Acts (fun _ => [.click l timeout]) (click l timeout) :=
  record ((seen l timeout).andThen fun e => change (Paged.effects_faults e.onClick))

theorem hover (l : Locator) (timeout : Value) :
    Acts (fun _ => [.hover l timeout]) (hover l timeout) :=
  record ((seen l timeout).andThen fun _ => value ())

theorem update (l : Locator) (f : Element → Element) : Silent (changePage fun p => p.update l f) :=
  change fun _ => rfl

theorem fill (l : Locator) (text : String) (timeout : Value) :
    Acts (fun _ => [.fill l text timeout]) (fill l text timeout) :=
  record ((seen l timeout).andThen fun _ => update l _)

theorem check (l : Locator) (timeout : Value) :
    Acts (fun _ => [.check l timeout]) (check l timeout) :=
  record ((seen l timeout).andThen fun _ => update l _)

theorem uncheck (l : Locator) (timeout : Value) :
    Acts (fun _ => [.uncheck l timeout]) (uncheck l timeout) :=
  record ((seen l timeout).andThen fun _ => update l _)

theorem selectOption (l : Locator) (option : String) (timeout : Value) :
    Acts (fun _ => [.selectOption l option timeout]) (selectOption l option timeout) := by
  refine record ((seen l timeout).andThen fun e => ?_)
  split
  · exact update l _
  · exact fail (timeoutError_ordinary _ _)

theorem isEnabled (l : Locator) (timeout : Value) :
    Acts (fun _ => [.isEnabled l timeout]) (isEnabled l timeout) :=
  record ((seen l timeout).andThen fun e => value e.enabled)

theorem waitFor (l : Locator) (wanted : Visibility) (timeout : Value) :
    Acts (fun _ => [.waitFor l wanted timeout]) (waitFor l wanted timeout) := by
  refine record (look fun w => ?_)
  split
  · exact value ()
  · exact fail (timeoutError_ordinary _ _)

theorem press (key : String) : Acts (fun _ => [.press key]) (press key) := by
  refine record (look fun w => ?_)
  split
  · exact value ()
  · exact fail nofun

theorem goto (url : String) (timeout : Value) :
    Acts (fun _ => [.goto url "domcontentloaded" timeout]) (goto url timeout) := by
  refine record (look fun w => ?_)
  split
  · exact fail nofun
  · exact change fun _ => rfl

theorem waitForTimeout (milliseconds : Value) :
    Acts (fun _ => [.waitForTimeout milliseconds]) (waitForTimeout milliseconds) :=
  record (value ())

theorem screenshot (path : Path) :
    Acts (fun _ => [.screenshot path true]) (screenshot path) :=
  record (look fun _ => (ofExcept nofun _).andThen fun _ => keep _)

theorem currentUrl : Silent currentUrl :=
  (meet .url).andThen fun _ => look fun _ => value _

theorem haveDirectories (path : Path) : Silent (haveDirectories path) := by
  refine look fun w => (keep _).andThen fun _ => ?_
  split
  · exact value ()
  · exact fail nofun

/-- A report of the failures of the browser changes nothing about the calls. -/
theorem locating (doing : String) {body : Run α} (h : Acts made body) :
    Acts made (locating doing body) := by
  refine h.handled (by rintro _ (_ | _ | _ | _) <;> rfl) fun e he => ?_
  split
  · split <;> exact fail nofun
  · exact fail he

theorem driving (doing : String) {body : Run α} (h : Acts made body) :
    Acts made (driving doing body) := by
  refine h.handled (by rintro _ (_ | _ | _ | _) <;> rfl) fun e he => ?_
  split
  · exact fail nofun
  · exact fail he

theorem assertState (wanted : Visibility) (text : String) (timeout : Option Int) :
    Acts (fun _ => [.waitFor (.visibleText text) wanted (.int (timeout.getD assertTimeout))])
      (assertState wanted text timeout) := by
  refine (waitFor _ _ _).handled (by rintro _ (_ | _ | _ | _) <;> rfl) fun e he => ?_
  split
  · split
    · exact (ofExcept nofun _).andThen fun _ => fail nofun
    · exact fail nofun
  · exact fail he

end Acts
end Acts

/-- The call that the table of the actions lists for an instruction. -/
def tableCall (ctx : Context) : Instruction → Option Call
  | .text .goto s => some (.goto (resolveAddress ctx.baseUrl s) "domcontentloaded" ctx.timeout)
  | .text .clickButton s => some (.click ⟨"button", s, false⟩ ctx.timeout)
  | .text .clickLink s => some (.click ⟨"link", s, false⟩ ctx.timeout)
  | .text .check s => some (.check ⟨"label", s, false⟩ ctx.timeout)
  | .text .uncheck s => some (.uncheck ⟨"label", s, false⟩ ctx.timeout)
  | .text .hover s => some (.hover (.visibleText s) ctx.timeout)
  | .text .press s => some (.press s)
  | .text .assertUrl _ => none
  | .text .assertEnabled s => some (.isEnabled ⟨"button", s, false⟩ ctx.timeout)
  | .text .assertDisabled s => some (.isEnabled ⟨"button", s, false⟩ ctx.timeout)
  | .text .screenshot s => some (.screenshot (ctx.screenshots.join (screenshotFileName s)) true)
  | .await .waitFor s t => some (.waitFor (.visibleText s) .visible (.int (t.getD 10000)))
  | .await .assertVisible s t => some (.waitFor (.visibleText s) .visible (.int (t.getD 5000)))
  | .await .assertHidden s t => some (.waitFor (.visibleText s) .hidden (.int (t.getD 5000)))
  | .fill s v => some (.fill ⟨"css", s, false⟩ v ctx.timeout)
  | .fillField l v => some (.fill ⟨"label", l, false⟩ v ctx.timeout)
  | .select l o => some (.selectOption ⟨"label", l, false⟩ o ctx.timeout)
  | .clickText s => some (.click (.visibleText s) ctx.timeout)
  | .clickSelector s => some (.click ⟨"css", s, false⟩ ctx.timeout)
  | .wait x => some (.waitForTimeout (.real x.atLeastZero))

/-- The calls that an instruction makes. Without its directory a screenshot is not tried, and a wait
that cannot name its timeout does not start. -/
def madeCalls (ctx : Context) (files : Tree) (i : Instruction) : List Call :=
  match i with
  | .text .screenshot _ =>
    if (files.haveDirectories ctx.screenshots).failure?.isSome then [] else (tableCall ctx i).toList
  | .await .waitFor _ t => if isLong (t.getD waitTimeout) then [] else (tableCall ctx i).toList
  | i => (tableCall ctx i).toList

namespace Acts

theorem takeScreenshot (ctx : Context) (s : String) :
    Acts (fun files => madeCalls ctx files (.text .screenshot s))
      (takeScreenshot ctx.screenshots s) := by
  refine behind ?_ (fun _ => (driving _ (screenshot _)).andThen fun _ => say _) fun w => ?_
  · refine (haveDirectories _).handled (by rintro _ (_ | _ | _ | _) <;> rfl) fun e he => ?_
    split
    · exact fail nofun
    · exact fail he
  · rw [outcome_tryCatch, outcome_haveDirectories]
    simp only [madeCalls, tableCall]
    cases (w.files.haveDirectories ctx.screenshots).failure? with
    | none => rfl
    | some e => cases e <;> rfl

theorem waitForText (ctx : Context) (s : String) (t : Option Int) :
    Acts (fun files => madeCalls ctx files (.await .waitFor s t)) (waitForText s t) := by
  refine behind (ofExcept nofun _)
    (fun _ => locating _ (waitFor (.visibleText s) .visible (.int (t.getD waitTimeout))))
    fun w => ?_
  have hunless := integerText_unless (t.getD waitTimeout)
  simp only [madeCalls, outcome_ofExcept]
  generalize isLong (t.getD waitTimeout) = long, integerText (t.getD waitTimeout) = shown at hunless
  cases hunless <;> rfl

/-- Every instruction makes its calls, and fails for lack of a value only if the page does. -/
theorem performInstruction (ctx : Context) (i : Instruction) :
    Acts (fun files => madeCalls ctx files i) (performInstruction ctx i) := by
  cases i with
  | text action s =>
    cases action with
    | goto => exact driving _ (goto _ _)
    | clickButton | clickLink => exact locating _ (click _ _)
    | check => exact locating _ (check _ _)
    | uncheck => exact locating _ (uncheck _ _)
    | hover => exact locating _ (hover _ _)
    | press => exact driving _ (press _)
    | assertUrl =>
      refine currentUrl.andThen fun _ => ?_
      split
      · exact value ()
      · exact fail nofun
    | assertEnabled =>
      refine (locating _ (isEnabled _ _)).andThen fun _ => ?_
      split
      · exact value ()
      · exact fail nofun
    | assertDisabled =>
      refine (locating _ (isEnabled _ _)).andThen fun _ => ?_
      split
      · exact fail nofun
      · exact value ()
    | screenshot => exact takeScreenshot ctx s
  | await action s t =>
    cases action with
    | waitFor => exact waitForText ctx s t
    | assertVisible => exact assertState .visible s t
    | assertHidden => exact assertState .hidden s t
  | fill | fillField => exact locating _ (fill _ _ _)
  | select => exact locating _ (selectOption _ _ _)
  | clickText | clickSelector => exact locating _ (click _ _)
  | wait => exact driving _ (waitForTimeout _)

end Acts

/-- The timeout that applies to an instruction: that of the context, but for the waits on a text
their own or else a fixed one. -/
def timeoutFor (ctx : Context) : Instruction → Value
  | .await .waitFor _ t => .int (t.getD 10000)
  | .await _ _ t => .int (t.getD 5000)
  | _ => ctx.timeout

private theorem tableCall_timeout {ctx : Context} {i : Instruction} {c : Call} {t : Value}
    (hc : tableCall ctx i = some c) (ht : c.timeout? = some t) : t = timeoutFor ctx i := by
  cases i with
  | text action _ => cases action <;> cases hc <;> cases ht <;> rfl
  | await action _ _ => cases action <;> cases hc <;> cases ht <;> rfl
  | wait _ =>
    cases hc
    cases ht
  | _ =>
    cases hc
    cases ht
    rfl

private theorem timeoutFor_substitute (ctx : Context) (vars : Variables) (i : Instruction) :
    timeoutFor ctx (i.substitute vars) = timeoutFor ctx i := by
  cases i with
  | await action _ _ => cases action <;> rfl
  | _ => rfl

private theorem waitTimeout_short : isLong waitTimeout = false :=
  isLong_of_lt (k := 5) (by decide) (by decide)

theorem overlong_await_iff (w : TextWait) (s : String) (t : Option Int) :
    (Instruction.await w s t).Overlong ↔ isLong (t.getD waitTimeout) = true := by
  cases t with
  | none => exact iff_of_false id (Bool.not_eq_true _ ▸ waitTimeout_short)
  | some n => exact Iff.rfl

/-- An instruction whose timeout can be named makes the call of the table, unless that is a
screenshot without a directory. -/
private theorem madeCalls_of_short {ctx : Context} {i : Instruction}
    (h : i.action = .await .waitFor → ¬ i.Overlong) (files : Tree) :
    madeCalls ctx files i =
      if i.action = .text .screenshot ∧ (files.haveDirectories ctx.screenshots).failure?.isSome then
        []
      else (tableCall ctx i).toList := by
  unfold madeCalls
  split
  · simp only [Instruction.action, true_and]
  · rename_i s t
    have hshort : isLong (t.getD waitTimeout) = false :=
      (Bool.not_eq_true _).mp (mt (overlong_await_iff .waitFor s t).mpr (h rfl))
    rw [hshort, if_neg Bool.false_ne_true, if_neg]
    rintro ⟨⟨⟩, _⟩
  · rename_i hother _
    rw [if_neg]
    rintro ⟨hi, _⟩
    cases i with
    | text action s =>
      cases hi
      exact hother s rfl
    | _ => cases hi

theorem atLeastZero_same {x : Binary64} (hx : x.ltZero = false) (hnumber : x ≠ .nan) :
    x.atLeastZero.same x = true := by
  cases x with
  | finite s m e _ =>
    cases m with
    | zero => cases s <;> rfl
    | succ m =>
      cases s with
      | false => simp [Binary64.atLeastZero, Binary64.same]
      | true => simp [Binary64.ltZero] at hx
  | infinite s =>
    cases s with
    | false => rfl
    | true => cases hx
  | nan => exact absurd rfl hnumber

/-- A step that is read makes the one call of the table, with what its variables make of its texts,
on every page alike and whatever comes of it. Only the check of the address makes none, and a
screenshot without a directory is not tried. Calls that take a timeout have that of the context, but
for the waits on a text, and a wait for a time is that for its number, unless it is none. -/
theorem perform_calls {raw : Value} {i : Instruction} (h : Step.parse raw = .ok (.known i))
    (hshort : i.action = .await .waitFor → ¬ i.Overlong) (ctx : Context) (w : World) :
    (outcome (perform ctx (.known i)) w).2.calls = w.calls ++
        (if i.action = .text .screenshot ∧
            (w.files.haveDirectories ctx.screenshots).failure?.isSome then []
          else (tableCall ctx (i.substitute ctx.vars)).toList) ∧
      (∀ page, (outcome (perform ctx (.known i)) { w with page := page }).2.calls =
        (outcome (perform ctx (.known i)) w).2.calls) ∧
      (tableCall ctx (i.substitute ctx.vars) = none ↔ i.action = .text .assertUrl) ∧
      (∀ c ∈ tableCall ctx (i.substitute ctx.vars), ∀ t ∈ c.timeout?, t = timeoutFor ctx i) ∧
      ∀ x, i = .wait x → ∃ y, tableCall ctx i = some (.waitForTimeout (.real y)) ∧
        (y.same x = true ∨ x = .nan ∧ y = .zero false) := by
  have hacts := Acts.performInstruction ctx (i.substitute ctx.vars)
  have haction := i.action_substitute ctx.vars
  have hnamed : (i.substitute ctx.vars).action = .await .waitFor →
      ¬ (i.substitute ctx.vars).Overlong := by rwa [haction, i.overlong_substitute]
  have hmade : madeCalls ctx w.files (i.substitute ctx.vars) = _ :=
    madeCalls_of_short hnamed w.files
  rw [haction] at hmade
  refine ⟨(hacts.calls w).trans (by rw [hmade]), fun page => ?_, ?_, fun c hc t ht => ?_, ?_⟩
  · exact (hacts.calls { w with page := page }).trans (hacts.calls w).symm
  · cases i with
    | text action _ => cases action <;> simp [tableCall, Instruction.substitute, Instruction.action]
    | await action _ _ =>
      cases action <;> simp [tableCall, Instruction.substitute, Instruction.action]
    | _ => simp [tableCall, Instruction.substitute, Instruction.action]
  · exact (tableCall_timeout hc ht).trans (timeoutFor_substitute ctx ctx.vars i)
  · rintro x rfl
    refine ⟨x.atLeastZero, rfl, ?_⟩
    by_cases hx : x = .nan
    · exact .inr ⟨hx, by rw [hx]; rfl⟩
    · exact .inl (atLeastZero_same (step_meetsDemand h) hx)

/-- A wait that is not met makes its one call, with its own timeout. -/
theorem perform_calls_wait :
    Step.parse (.map [(.text "wait_for",
        .map [(.text "text", .text "$\x7bITEM\x7d"), (.text "timeout", .int 2000)])]) =
      .ok (.known (.await .waitFor "$\x7bITEM\x7d" (some 2000))) ∧
    isLong 2000 = false ∧
    (outcome (perform (oneVariable "ITEM" "Pay")
        (.known (.await .waitFor "$\x7bITEM\x7d" (some 2000))))
        (faultyWorld .waitFor ⟨true, "Timeout"⟩)).2.calls =
      [.waitFor (.visibleText "Pay") .visible (.int 2000)] := by
  have hread : Step.parse (.map [(.text "wait_for",
        .map [(.text "text", .text "$\x7bITEM\x7d"), (.text "timeout", .int 2000)])]) =
      .ok (.known (.await .waitFor "$\x7bITEM\x7d" (some 2000))) := rfl
  have hshort : isLong 2000 = false := isLong_of_lt (k := 4) (by decide) (by decide)
  obtain ⟨hcalls, _⟩ := perform_calls hread (fun _ => (Bool.not_eq_true _).mpr hshort)
    (oneVariable "ITEM" "Pay") (faultyWorld .waitFor ⟨true, "Timeout"⟩)
  exact ⟨hread, hshort, hcalls⟩

/-- The call of a wait is not always one for the number of the step: where that is none, it is one
for zero. -/
theorem waitCall_zero :
    ¬ ∀ raw x, Step.parse raw = .ok (.known (.wait x)) → ∀ ctx w,
      ∃ y, (outcome (perform ctx (.known (.wait x))) w).2.calls =
        w.calls ++ [.waitForTimeout (.real y)] ∧ y = x := by
  intro hall
  obtain ⟨y, hcalls, rfl⟩ := hall (.map [(.text "wait", .real .nan)]) .nan rfl
    { screenshots := Path.ofString "shots" } (faultyWorld .press ⟨true, "Timeout"⟩)
  cases hcalls

end FeatureRun.Run
