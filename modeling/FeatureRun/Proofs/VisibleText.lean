import FeatureRun.Proofs.PayloadShapes
import Mathlib.Logic.Relation

/-!
Steps that look for a text on the page. Only what is visible counts for them: hidden copies of the
text may come and go anywhere in the page, and nothing about the outcome changes. Main statement:
`perform_visibleText`.
-/
namespace FeatureRun.Browser
open FeatureRun.Data FeatureRun.Files FeatureRun.Run

variable {t : String}

def Element.ShowsText (t : String) (e : Element) : Prop :=
  e.how = "text" ∧ e.target = t ∧ e.visible = true

def Element.HidesText (t : String) (e : Element) : Prop :=
  e.how = "text" ∧ e.target = t ∧ e.visible = false

def Page.ShowsText (t : String) (p : Page) : Prop := ∃ e ∈ p.elements, e.ShowsText t

private theorem visibleText_matches_iff {e : Element} :
    (Locator.visibleText t).matches e = true ↔ e.ShowsText t := by
  simp [Locator.matches, Locator.visibleText, Element.hasKey, Element.ShowsText, and_assoc]

/-- What the locator picks is visible. -/
theorem first?_visible (p : Page) :
    (p.first? (.visibleText t)).filter (·.visible) = p.first? (.visibleText t) := by
  cases h : p.first? (.visibleText t) with
  | none => rfl
  | some e =>
    have he := visibleText_matches_iff.mp (List.find?_some h)
    exact Option.filter_some_pos he.2.2

private theorem shows_eq_isSome (p : Page) :
    p.shows (.visibleText t) = (p.first? (.visibleText t)).isSome := by
  rw [Page.shows, ← first?_visible]
  cases p.first? (.visibleText t) with
  | none => rfl
  | some e => cases h : e.visible <;> simp [h]

private theorem shows_iff (p : Page) : p.shows (.visibleText t) = true ↔ p.ShowsText t := by
  rw [shows_eq_isSome, Page.first?, List.find?_isSome]
  exact exists_congr fun e => and_congr_right fun _ => visibleText_matches_iff

/-- One hidden copy of the text is put into the elements or taken out of them. -/
inductive HiddenCopy (t : String) : List Element → List Element → Prop
  | insert {before after : List Element} {e : Element} :
      e.HidesText t → HiddenCopy t (before ++ after) (before ++ e :: after)
  | remove {before after : List Element} {e : Element} :
      e.HidesText t → HiddenCopy t (before ++ e :: after) (before ++ after)

abbrev HiddenCopies (t : String) : List Element → List Element → Prop :=
  Relation.ReflTransGen (HiddenCopy t)

private theorem find?_hidden {before after : List Element} {e : Element} (h : e.HidesText t) :
    (before ++ e :: after).find? (Locator.visibleText t).matches =
      (before ++ after).find? (Locator.visibleText t).matches := by
  have he : ¬ (Locator.visibleText t).matches e = true := by
    rw [visibleText_matches_iff]
    exact fun hshown => Bool.false_ne_true (h.2.2.symm.trans hshown.2.2)
  rw [List.find?_append, List.find?_append, List.find?_cons_of_neg he]

private theorem HiddenCopy.find?_eq {es es' : List Element} (h : HiddenCopy t es es') :
    es'.find? (Locator.visibleText t).matches = es.find? (Locator.visibleText t).matches := by
  cases h with
  | insert he => exact find?_hidden he
  | remove he => exact (find?_hidden he).symm

private theorem HiddenCopies.find?_eq {es es' : List Element} (h : HiddenCopies t es es') :
    es'.find? (Locator.visibleText t).matches = es.find? (Locator.visibleText t).matches := by
  induction h with
  | refl => rfl
  | tail _ hstep ih => exact hstep.find?_eq.trans ih

end FeatureRun.Browser

namespace FeatureRun.Run
open FeatureRun.Text FeatureRun.Number FeatureRun.Data FeatureRun.Files FeatureRun.Spec
open FeatureRun.Browser

section Looking
variable {w : World} {t : String}

/-- On a page without faults an operation makes its call and acts. -/
private theorem outcome_record {α : Type} (hf : w.page.faults = []) (c : Call) (act : Run α) :
    outcome (record c act) w = outcome act { w with calls := w.calls ++ [c] } := by
  obtain ⟨⟨url, elements, badUrls, keys, faults⟩, _⟩ := w
  cases hf
  simp only [record, outcome_bind, outcome_modify, outcome_meetFault]
  rfl

abbrev textMissing (t : String) (timeout : Value) : Failure :=
  timeoutError timeout ("waiting for " ++ (Locator.visibleText t).text)

private theorem outcome_seenText (timeout : Value) (w : World) :
    outcome (seen (.visibleText t) timeout) w =
      ((w.page.first? (.visibleText t)).elim (.error (textMissing t timeout)) .ok, w) := by
  rw [seen, outcome_bind, outcome_get]
  simp only [first?_visible]
  cases w.page.first? (.visibleText t) <;> rfl

private theorem outcome_clickText (hf : w.page.faults = []) (timeout : Value) :
    outcome (click (.visibleText t) timeout) w =
      ((w.page.first? (.visibleText t)).elim (.error (textMissing t timeout)) fun _ => .ok (),
        { w with
          calls := w.calls ++ [.click (.visibleText t) timeout]
          page := (w.page.first? (.visibleText t)).elim w.page fun e =>
            e.onClick.foldl Page.apply w.page }) := by
  rw [click, outcome_record hf, outcome_bind, outcome_seenText]
  cases w.page.first? (.visibleText t) <;> rfl

private theorem outcome_hoverText (hf : w.page.faults = []) (timeout : Value) :
    outcome (hover (.visibleText t) timeout) w =
      ((w.page.first? (.visibleText t)).elim (.error (textMissing t timeout)) fun _ => .ok (),
        { w with calls := w.calls ++ [.hover (.visibleText t) timeout] }) := by
  rw [hover, outcome_record hf, outcome_bind, outcome_seenText]
  cases w.page.first? (.visibleText t) <;> rfl

private theorem outcome_waitText (hf : w.page.faults = []) (wanted : Visibility) (timeout : Value) :
    (outcome (waitFor (.visibleText t) wanted timeout) w).1 =
      if w.page.meets (.visibleText t) wanted then .ok ()
      else .error (timeoutError timeout
        ("waiting for " ++ (Locator.visibleText t).text ++ " to be " ++ wanted.name)) := by
  rw [waitFor, outcome_record hf, outcome_bind, outcome_get]
  dsimp only
  split <;> rfl

private theorem meets_visible_iff (p : Page) :
    p.meets (.visibleText t) .visible = true ↔ p.ShowsText t := by
  rw [← shows_iff, Page.meets, beq_self_eq_true, beq_true]

private theorem meets_hidden_iff (p : Page) :
    p.meets (.visibleText t) .hidden = true ↔ ¬ p.ShowsText t := by
  rw [← shows_iff, Page.meets, Bool.not_eq_true]
  exact beq_iff_eq

private theorem waitFor_ok_iff (hf : w.page.faults = []) (wanted : Visibility) (timeout : Value) :
    (outcome (waitFor (.visibleText t) wanted timeout) w).1 = .ok () ↔
      w.page.meets (.visibleText t) wanted = true := by
  rw [outcome_waitText hf]
  split
  · exact iff_of_true rfl ‹_›
  · exact iff_of_false nofun ‹_›

private theorem assertState_ok_iff (hf : w.page.faults = []) (wanted : Visibility)
    (timeout : Option Int) :
    (outcome (assertState wanted t timeout) w).1 = .ok () ↔
      w.page.meets (.visibleText t) wanted = true := by
  rw [outcome_assertState, mapError_eq_ok_iff, waitFor_ok_iff hf]

private theorem waitForText_ok_iff (hf : w.page.faults = []) (s : String) (timeout : Option Int) :
    (outcome (waitForText t timeout) w).1 = .ok () ↔
      w.page.ShowsText t ∧ ¬ (Instruction.await .waitFor s timeout).Overlong := by
  have hunless := integerText_unless (timeout.getD waitTimeout)
  rw [overlong_await_iff, waitForText, outcome_bind, outcome_ofExcept]
  generalize isLong (timeout.getD waitTimeout) = long,
    integerText (timeout.getD waitTimeout) = shown at hunless
  cases hunless with
  | there shown =>
    change (outcome (locating _ (waitFor (.visibleText t) .visible _)) w).1 = .ok () ↔ _
    rw [outcome_locating, mapError_eq_ok_iff, waitFor_ok_iff hf, meets_visible_iff]
    exact (and_iff_left Bool.false_ne_true).symm
  | tooLong => exact iff_of_false nofun fun h => h.2 rfl

end Looking

inductive Seeks (s : String) : Instruction → Prop
  | click : Seeks s (.clickText s)
  | hover : Seeks s (.text .hover s)
  | await (action : TextWait) (timeout : Option Int) : Seeks s (.await action s timeout)

/-- What comes of the instruction depends on the element that is picked alone. -/
theorem seeks_outcome_eq {s : String} {i : Instruction} (h : Seeks s i) (ctx : Context)
    {w w' : World} (hf : w.page.faults = []) (hf' : w'.page.faults = [])
    (hpicked : w'.page.first? (.visibleText (ctx.vars.substitute s)) =
      w.page.first? (.visibleText (ctx.vars.substitute s))) :
    (outcome (perform ctx (.known i)) w').1 = (outcome (perform ctx (.known i)) w).1 := by
  have hmeets (wanted : Visibility) : w'.page.meets (.visibleText (ctx.vars.substitute s)) wanted =
      w.page.meets (.visibleText (ctx.vars.substitute s)) wanted := by
    rw [Page.meets, Page.meets, shows_eq_isSome, shows_eq_isSome, hpicked]
  cases h with
  | click =>
    change (outcome (locating _ (click (.visibleText _) ctx.timeout)) w').1 =
      (outcome (locating _ (click (.visibleText _) ctx.timeout)) w).1
    rw [outcome_locating, outcome_locating, outcome_clickText hf, outcome_clickText hf', hpicked]
  | hover =>
    change (outcome (locating _ (hover (.visibleText _) ctx.timeout)) w').1 =
      (outcome (locating _ (hover (.visibleText _) ctx.timeout)) w).1
    rw [outcome_locating, outcome_locating, outcome_hoverText hf, outcome_hoverText hf', hpicked]
  | await action timeout =>
    cases action with
    | waitFor =>
      change (outcome (waitForText _ timeout) w').1 = (outcome (waitForText _ timeout) w).1
      rw [waitForText, outcome_bind, outcome_bind, outcome_ofExcept, outcome_ofExcept]
      cases integerText (timeout.getD waitTimeout) with
      | error e => rfl
      | ok shown =>
        simp only [Except.mapError, outcome_locating, outcome_waitText hf,
          outcome_waitText hf', hmeets]
    | assertVisible =>
      change (outcome (assertState _ _ timeout) w').1 = (outcome (assertState _ _ timeout) w).1
      rw [outcome_assertState, outcome_assertState, outcome_waitText hf,
        outcome_waitText hf', hmeets]
    | assertHidden =>
      change (outcome (assertState _ _ timeout) w').1 = (outcome (assertState _ _ timeout) w).1
      rw [outcome_assertState, outcome_assertState, outcome_waitText hf,
        outcome_waitText hf', hmeets]

def Passes (ctx : Context) (i : Instruction) (w : World) : Prop :=
  (outcome (perform ctx (.known i)) w).1 = .ok ()

/-- On a page without faults the expectation that a text is visible passes exactly if some element
shows the text, and the one that it is hidden exactly if the first does not. A wait passes exactly if
the text is shown and its timeout can be named. Hidden copies of the text change nothing about what
comes of a step that looks for it, and a click is one on the first element that shows it. -/
theorem perform_visibleText (ctx : Context) (s : String) {w : World} (hf : w.page.faults = []) :
    (∀ timeout, Passes ctx (.await .assertVisible s timeout) w ↔
        w.page.ShowsText (ctx.vars.substitute s)) ∧
      (∀ timeout, Passes ctx (.await .assertHidden s timeout) w ↔
        ¬ w.page.ShowsText (ctx.vars.substitute s)) ∧
      (∀ timeout timeout', Passes ctx (.await .assertHidden s timeout') w ↔
        ¬ Passes ctx (.await .assertVisible s timeout) w) ∧
      (∀ timeout, Passes ctx (.await .waitFor s timeout) w ↔
        w.page.ShowsText (ctx.vars.substitute s) ∧
          ¬ (Instruction.await .waitFor s timeout).Overlong) ∧
      (∀ i elements, Seeks s i →
        HiddenCopies (ctx.vars.substitute s) w.page.elements elements →
        (outcome (perform ctx (.known i))
          { w with page := { w.page with elements := elements } }).1 =
        (outcome (perform ctx (.known i)) w).1) ∧
      ∀ before e after, w.page.elements = before ++ e :: after →
        e.ShowsText (ctx.vars.substitute s) →
        (∀ x ∈ before, ¬ x.ShowsText (ctx.vars.substitute s)) →
        outcome (perform ctx (.known (.clickText s))) w =
          (.ok (), { w with
            calls := w.calls ++ [.click (.visibleText (ctx.vars.substitute s)) ctx.timeout]
            page := e.onClick.foldl Page.apply w.page }) := by
  have hvisible (timeout : Option Int) : Passes ctx (.await .assertVisible s timeout) w ↔
      w.page.ShowsText (ctx.vars.substitute s) :=
    (assertState_ok_iff hf .visible timeout).trans (meets_visible_iff w.page)
  have hhidden (timeout : Option Int) : Passes ctx (.await .assertHidden s timeout) w ↔
      ¬ w.page.ShowsText (ctx.vars.substitute s) :=
    (assertState_ok_iff hf .hidden timeout).trans (meets_hidden_iff w.page)
  refine ⟨hvisible, hhidden, fun timeout timeout' => ?_, waitForText_ok_iff hf s, ?_, ?_⟩
  · rw [hvisible, hhidden]
  · intro i elements hi hcopies
    exact seeks_outcome_eq hi ctx hf hf hcopies.find?_eq
  · intro before e after helements he hbefore
    have hfirst : w.page.first? (.visibleText (ctx.vars.substitute s)) = some e := by
      rw [Page.first?, List.find?_eq_some_iff_append]
      refine ⟨visibleText_matches_iff.mpr he, before, after, helements, fun x hx => ?_⟩
      rw [Bool.not_eq_true', ← Bool.not_eq_true, visibleText_matches_iff]
      exact hbefore x hx
    change outcome (locating _ (click (.visibleText _) ctx.timeout)) w = _
    rw [outcome_locating, outcome_clickText hf, hfirst]
    rfl

/-- A page with a hidden copy of a text in front of the one that is shown. -/
def copiedWorld : World where
  page := {
    elements := [
      { how := "text", target := "Save", visible := false },
      { how := "text", target := "Save", onClick := [.url "https://shop.test/saved"] }] }
  files := ⟨[], []⟩
  picks := ⟨[0], 0⟩

theorem perform_visibleText_save :
    copiedWorld.page.faults = [] ∧
      Passes { screenshots := Path.ofString "shots" } (.await .assertVisible "Save" none)
        copiedWorld ∧
      ¬ Passes { screenshots := Path.ofString "shots" } (.await .assertHidden "Save" none)
        copiedWorld ∧
      (outcome (perform { screenshots := Path.ofString "shots" } (.known (.clickText "Save")))
        copiedWorld).2.page.url = "https://shop.test/saved" := by
  have hf : copiedWorld.page.faults = [] := rfl
  obtain ⟨hvisible, _, hone, _, _, hclick⟩ :=
    perform_visibleText { screenshots := Path.ofString "shots" } "Save" hf
  have hpasses := (hvisible none).mpr ⟨_, .tail _ (.head _), rfl, rfl, rfl⟩
  refine ⟨hf, hpasses, fun h => (hone none none).mp h hpasses, ?_⟩
  rw [hclick [_] _ [] rfl ⟨rfl, rfl, rfl⟩ fun x hx => ?_]
  · rfl
  · cases List.mem_singleton.mp hx
    exact fun h => Bool.false_ne_true h.2.2

/-- A wait for a text that is shown does not always pass: its timeout may be too long to be named. -/
theorem longWait_unmet :
    Step.parse (.map [(.text "wait_for",
        .map [(.text "text", .text "Hi"), (.text "timeout", .int longTimeout)])]) =
      .ok (.known (.await .waitFor "Hi" (some longTimeout))) ∧
    (showingWorld "Hi").page.faults = [] ∧ (showingWorld "Hi").page.ShowsText "Hi" ∧
    ¬ Passes { screenshots := Path.ofString "shots" } (.await .waitFor "Hi" (some longTimeout))
      (showingWorld "Hi") := by
  refine ⟨parse_timeout .waitFor (by decide) longTimeout_pos, rfl,
    ⟨_, List.mem_cons_self, rfl, rfl, rfl⟩, fun h => ?_⟩
  have hf : (showingWorld "Hi").page.faults = [] := rfl
  exact ((waitForText_ok_iff hf "Hi" (some longTimeout)).mp h).2 longTimeout_long

end FeatureRun.Run
