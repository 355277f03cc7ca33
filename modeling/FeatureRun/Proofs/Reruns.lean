import FeatureRun.Proofs.ScreenshotPlaces
import FeatureRun.Proofs.TreeGrowth

/-!
Runs that are made again on the files that they left. The directories and pictures of the first run
are found by the second one, and it ends alike: no outcome and no path depends on them. Main
statement: `runSpec_again`.
-/
namespace FeatureRun.Run
open FeatureRun.Text FeatureRun.Number FeatureRun.Data FeatureRun.Files FeatureRun.Spec
open FeatureRun.Browser

def World.withFiles (w : World) (t : Tree) : World := { w with files := t }

@[simp] theorem World.withFiles_self (w : World) : w.withFiles w.files = w := rfl

@[simp] theorem World.files_withFiles (w : World) (t : Tree) : (w.withFiles t).files = t := rfl

/-- What is known of the files, and stays so when the directory of a site grows. -/
structure Ground (s : Site) where
  holds : Tree → Prop
  ahead : ∀ {t u : Tree}, Ahead s t u → holds t → holds u

def standing (s : Site) : Ground s := ⟨s.Stands, fun h => h.stands⟩

def made (s : Site) : Ground s := ⟨s.Made, fun h => h.isMade⟩

/-- The part neither sees the files nor changes them. -/
def Blind {α : Type} (r : Run α) : Prop :=
  ∀ w u, outcome r (w.withFiles u) = ((outcome r w).1, (outcome r w).2.withFiles u)

/-- The part ends alike on files that are ahead of others, but for the files that it leaves. Those
are ahead of what they were, and of one another as before. -/
def Alike {s : Site} (g : Ground s) {α : Type} (r : Run α) : Prop :=
  ∀ w u, g.holds w.files → Ahead s w.files u → ∃ u',
    outcome r (w.withFiles u) = ((outcome r w).1, (outcome r w).2.withFiles u') ∧
      Ahead s w.files (outcome r w).2.files ∧ Ahead s (outcome r w).2.files u'

/-- Where the directory above the site's stands, the site's directory alone is made. -/
private theorem outcome_haveDirectories_site {s : Site} {w : World} (h : s.Stands w.files) :
    outcome (haveDirectories s.path) w =
      match w.files.haveDirectory s.path with
      | .ok t => (.ok (), w.withFiles t)
      | .error e => (.error (.file e), w) := by
  rw [outcome_haveDirectories, h.haveDirectories]
  cases w.files.haveDirectory s.path <;> rfl

private theorem made_of_ok {s : Site} {w w' : World} {x : Unit} (h : s.Stands w.files)
    (ho : outcome (haveDirectories s.path) w = (.ok x, w')) : s.Made w'.files := by
  rw [outcome_haveDirectories_site h] at ho
  cases ht : w.files.haveDirectory s.path with
  | error e =>
    rw [ht] at ho
    cases ho
  | ok t =>
    rw [ht] at ho
    cases ho
    exact h.made ht

namespace Alike
variable {α β : Type} {s : Site} {g m : Ground s}

private theorem ofBlind {r : Run α} (h : Blind r) : Alike g r := by
  intro w u _ hu
  have hself := h w w.files
  rw [World.withFiles_self] at hself
  have hfiles : (outcome r w).2.files = w.files := congrArg (·.2.files) hself
  exact ⟨u, h w u, hfiles ▸ .refl _, hfiles ▸ hu⟩

theorem pure (x : α) : Alike g (pure x : Run α) := ofBlind fun _ _ => rfl

theorem throw (e : Failure) : Alike g (throw e : Run α) := ofBlind fun _ _ => rfl

theorem modify {f : World → World} (hf : ∀ w u, f (w.withFiles u) = (f w).withFiles u) :
    Alike g (modify f) :=
  ofBlind fun w u => congrArg (Prod.mk (Except.ok ())) (hf w u)

theorem say (n : Notice) : Alike g (say n) := modify fun _ _ => rfl

theorem ofExcept {ε : Type} (wrap : ε → Failure) (r : Except ε α) : Alike g (ofExcept wrap r) := by
  cases r with
  | ok x => exact pure x
  | error e => exact throw (wrap e)

theorem meetFault (op : PageOp) : Alike g (meetFault op) :=
  ofBlind fun _ _ => by rw [outcome_meetFault, outcome_meetFault]; rfl

theorem takeStep (e : SessionEvent) : Alike g (takeStep e) :=
  ofBlind fun _ _ => by rw [outcome_takeStep, outcome_takeStep]; rfl

theorem chooseEngine (v : Value) : Alike g (chooseEngine v) := by
  obtain ⟨r, hr⟩ := chooseEngine_outcome v
  exact ofBlind fun _ _ => by rw [hr, hr]

theorem drawToken (n : Nat) : Alike g (drawToken n) := ofBlind fun _ _ => rfl

/-- What goes on from a part may rely on more, if the part provides for it. -/
theorem andThen {r : Run α} {f : α → Run β} (h : Alike g r)
    (hg : ∀ w x w', g.holds w.files → outcome r w = (.ok x, w') → m.holds w'.files)
    (hf : ∀ x, Alike m (f x)) : Alike g (r >>= f) := by
  intro w u hw hu
  obtain ⟨u', hr, hgrown, hahead⟩ := h w u hw hu
  rw [outcome_bind, outcome_bind, hr]
  rcases ho : outcome r w with ⟨e | x, w'⟩ <;> rw [ho] at hgrown hahead
  · exact ⟨u', rfl, hgrown, hahead⟩
  · obtain ⟨u'', hf', hgrown', hahead'⟩ := hf x w' u' (hg w x w' hw ho) hahead
    exact ⟨u'', hf', hgrown.trans hgrown', hahead'⟩

theorem bind {r : Run α} {f : α → Run β} (h : Alike g r) (hf : ∀ x, Alike g (f x)) :
    Alike g (r >>= f) := by
  refine h.andThen (fun w x w' hw ho => ?_) hf
  obtain ⟨_, _, hgrown, _⟩ := h w w.files hw (.refl _)
  rw [ho] at hgrown
  exact g.ahead hgrown hw

theorem tryCatch {r : Run α} {handle : Failure → Run α} (h : Alike g r)
    (hh : ∀ e, Alike g (handle e)) : Alike g (tryCatch r handle) := by
  intro w u hw hu
  obtain ⟨u', hr, hgrown, hahead⟩ := h w u hw hu
  rw [outcome_tryCatch, outcome_tryCatch, hr]
  rcases ho : outcome r w with ⟨e | x, w'⟩ <;> rw [ho] at hgrown hahead
  · obtain ⟨u'', hf', hgrown', hahead'⟩ := hh e w' u' (g.ahead hgrown hw) hahead
    exact ⟨u'', hf', hgrown.trans hgrown', hahead'⟩
  · exact ⟨u', rfl, hgrown, hahead⟩

/-- What is seen of the world does not depend on the files. -/
theorem look {k : World → Run α} (hk : ∀ w u, k (w.withFiles u) = k w)
    (h : ∀ w, Alike g (k w)) : Alike g (get >>= k) := by
  intro w u hw hu
  rw [outcome_bind_ok (outcome_get _), outcome_bind_ok (outcome_get _), hk]
  exact h w w u hw hu

/-- What sees the page alone does not see the files. -/
theorem ofPaged {r : Run α} (h : Paged r) : Alike g r := by
  induction h with
  | value x => exact pure x
  | @fail _ e _ => exact throw e
  | andThen _ _ ihr ihf => exact ihr.bind ihf
  | handle _ _ hi ihr ihh => exact ihr.tryCatch (of_handler ihh hi throw)
  | look _ ih => exact look (fun _ _ => rfl) fun w => ih w.page
  | call _ => exact modify fun _ _ => rfl
  | change _ => exact modify fun _ _ => rfl
  | meet op => exact meetFault op

theorem driving (doing : String) {body : Run α} (h : Alike g body) :
    Alike g (driving doing body) :=
  h.tryCatch fun e => by split <;> exact throw _

theorem rescue {body : Run α} {handle : Failure → Run α} (h : Alike g body)
    (hh : ∀ e, Alike g (handle e)) : Alike g (rescue body handle) := by
  refine h.tryCatch fun e => ?_
  split
  · exact throw e
  · exact hh e

theorem haveDirectories : Alike (standing s) (haveDirectories s.path) := by
  intro w u hw hu
  rw [outcome_haveDirectories_site hw, outcome_haveDirectories_site (hu.stands hw)]
  have hmade := hu.haveDirectory hw
  rw [World.files_withFiles]
  generalize w.files.haveDirectory s.path = r at hmade
  generalize u.haveDirectory s.path = r' at hmade
  cases hmade with
  | failed e => exact ⟨u, rfl, .refl _, hu⟩
  | changed hgrown hahead => exact ⟨_, rfl, hgrown, hahead⟩

theorem screenshot {x : String} (hx : x ≠ "..") : Alike (made s) (screenshot (s.file x)) := by
  refine bind (modify fun _ _ => rfl) fun _ => bind (meetFault _) fun _ => ?_
  intro w u hw hu
  have hwritten := hu.write hw hx imageContent
  simp only [outcome_bind, outcome_get, outcome_ofExcept, World.files_withFiles]
  generalize w.files.write (s.file x) imageContent = r at hwritten
  generalize u.write (s.file x) imageContent = r' at hwritten
  cases hwritten with
  | failed e => exact ⟨u, rfl, .refl _, hu⟩
  | changed hgrown hahead => exact ⟨_, rfl, hgrown, hahead⟩

/-- A step's picture is written in a directory that has been made. -/
theorem takeScreenshot (name : String) : Alike (standing s) (takeScreenshot s.path name) := by
  have hname := screenshotFileName_isPictureName name
  have hfile : s.path.join (screenshotFileName name) = s.file (screenshotFileName name) :=
    (hname.join s.path).trans (s.file_eq _).symm
  refine andThen (m := made s) (haveDirectories.tryCatch fun e => ?_)
    (fun w x w' hw ho => ?_) fun _ => ?_
  · split <;> exact throw _
  · rw [outcome_tryCatch] at ho
    rcases hd : outcome (Run.haveDirectories s.path) w with ⟨e | x, v⟩ <;> rw [hd] at ho
    · dsimp only at ho
      split at ho <;> cases ho
    · cases ho
      exact made_of_ok hw hd
  · dsimp only
    rw [hfile]
    exact .bind (.driving _ (.screenshot hname.ne.2.2)) fun _ => .say _

variable {ctx : Context}

theorem performInstruction (hctx : ctx.screenshots = s.path) (i : Instruction) :
    Alike (standing s) (performInstruction ctx i) := by
  by_cases h : i.action = .text .screenshot
  · cases i with
    | text action text =>
      cases h
      change Alike _ (Run.takeScreenshot ctx.screenshots text)
      rw [hctx]
      exact takeScreenshot text
    | _ => cases h
  · exact ofPaged (.performInstruction ctx h)

theorem perform (hctx : ctx.screenshots = s.path) (step : Step) :
    Alike (standing s) (perform ctx step) := by
  cases step with
  | known i => exact performInstruction hctx _
  | unknown => exact throw _

theorem runSteps (hctx : ctx.screenshots = s.path) (steps : List Step) :
    Alike (standing s) (runSteps ctx steps) := by
  induction steps with
  | nil => exact pure ()
  | cons step rest ih =>
    exact .bind (.ofExcept _ _) fun _ => .bind (.say _) fun _ =>
      .bind (perform hctx step) fun _ => ih

/-- The picture of a failure is written in a directory that has been made. -/
theorem captureFailure {x : String} (hx : x ≠ "..") :
    Alike (standing s) (captureFailure (s.file x)) := by
  refine rescue ?_ fun e => .bind (.say _) fun _ => .pure none
  rw [s.file_parent]
  exact haveDirectories.andThen (m := made s) (fun _ _ _ => made_of_ok) fun _ =>
    .bind (.screenshot hx) fun _ => .pure _

theorem runScenario (hctx : ctx.screenshots = s.path) (scenario : Scenario) {x : String}
    (hx : x ≠ "..") : Alike (standing s) (runScenario ctx scenario (s.file x)) :=
  .bind (.say _) fun _ =>
    .rescue (.bind (runSteps hctx _) fun _ => .bind (.say _) fun _ => .pure _) fun _ =>
      .bind (captureFailure hx) fun _ => .bind (.say _) fun _ => .pure _

theorem runScenarios (hctx : ctx.screenshots = s.path) {file dirname : String}
    (hs : screenshotDirectory (Path.ofString file) dirname = s.path) (taken : List Path)
    (scenarios : List Scenario) :
    Alike (standing s) (runScenarios ctx (Path.ofString file) dirname taken scenarios) := by
  induction scenarios generalizing taken with
  | nil => exact pure ()
  | cons scenario rest ih =>
    unfold Run.runScenarios
    split
    · exact throw _
    · rename_i q hq
      obtain ⟨number, hnumber⟩ := uniquePath_shot hq
      have hin := (failureShot_isPictureIn _ file scenario.name number true hnumber).1
      rw [hs] at hin
      have hfile : q = s.file q.name := hin.eq_mk.trans (s.file_eq _).symm
      refine .bind ?_ fun x => .bind (.modify fun _ _ => rfl) fun _ => ih (q :: taken)
      rw [hfile]
      exact runScenario hctx scenario hin.notDots.2

theorem undoing {cleanup : Run Unit} {body : Run α} (hc : Alike g cleanup) (h : Alike g body) :
    Alike g (undoing cleanup body) :=
  h.tryCatch fun e => hc.bind fun _ => throw e

theorem andAlways {cleanup : Run Unit} {body : Run α} (h : Alike g body) (hc : Alike g cleanup) :
    Alike g (andAlways body cleanup) := by
  refine .bind (.tryCatch ?_ fun e => .pure _) fun r => .bind hc fun _ => ?_
  · rw [← bind_pure_comp]
    exact h.bind fun x => pure _
  · cases r with
    | ok x => exact pure x
    | error e => exact throw e

theorem asEngineFault (o : Options) (fault : String → BrowserError → EngineError) {body : Run α}
    (h : Alike g body) : Alike g (asEngineFault o fault body) := by
  refine h.tryCatch fun e => ?_
  split
  · exact .bind (.ofExcept _ _) fun _ => .throw _
  · exact throw _

theorem openPage (o : Options) : Alike g (openPage o) := by
  refine .bind (.ofExcept _ _) fun _ => .bind (.takeStep _) fun _ => .bind (.takeStep _) fun _ =>
    .bind (.ofExcept _ _) fun n => ?_
  cases n with
  | none => exact pure ()
  | some n => exact modify fun _ _ => rfl

theorem openSession (o : Options) : Alike g (openSession o) :=
  .bind (.takeStep _) fun _ => .undoing (.takeStep _) <|
    .bind (.chooseEngine _) fun _ => .bind (.ofExcept _ _) fun _ => .bind (.takeStep _) fun _ =>
      .undoing (.takeStep _) (openPage o)

theorem withSession (o : Options) {body : Run α} (h : Alike g body) :
    Alike g (withSession o body) :=
  .bind (.asEngineFault o _ (openSession o)) fun _ =>
    h.andAlways (.asEngineFault o _
      (.andAlways (.takeStep _) (.andAlways (.takeStep _) (.takeStep _))))

theorem runSpec (spec : Spec) {file : String} {o : Options}
    (hs : screenshotDirectory (Path.ofString file) o.screenshotsDirname = s.path) :
    Alike (standing s) (runSpec spec (Path.ofString file) o) := by
  refine .bind (.say _) fun _ => .bind (.bind (.drawToken _) fun _ => .pure _) fun vars =>
    .bind (.modify fun _ _ => rfl) fun _ => .bind (.tryCatch (withSession o ?_) fun e => ?_)
      fun _ => .look (fun _ _ => rfl) fun w => .bind (.say _) fun _ => .pure _
  · exact runScenarios hs hs [] spec.scenarios
  · split
    · exact .bind (.say _) fun _ => .modify fun _ _ => rfl
    · exact throw _

end Alike

structure IsComponent (x : String) : Prop where
  noSlash : '/' ∉ x.toList
  nonempty : x ≠ ""
  notDots : x ≠ "." ∧ x ≠ ".."

/-- The world as it was, but for the files that so many runs of the part leave, each of them made
on the files of the one before it. -/
def again {α : Type} (r : Run α) (w : World) : Nat → World
  | 0 => w
  | n + 1 => w.withFiles (outcome r (again r w n)).2.files

/-- A part that ends alike on files that are ahead does so however often it is run again. -/
private theorem Alike.again {α : Type} {s : Site} {g : Ground s} {r : Run α} (h : Alike g r)
    {w : World}
    (hw : g.holds w.files) (n : Nat) :
    Ahead s w.files (again r w n).files ∧ ∃ t,
      outcome r (again r w n) = ((outcome r w).1, (outcome r w).2.withFiles t) := by
  induction n with
  | zero => exact ⟨.refl _, _, rfl⟩
  | succ n ih =>
    obtain ⟨hahead, _⟩ := ih
    obtain ⟨_, _, hgrown, _⟩ := h (Run.again r w n) (Run.again r w n).files
      (g.ahead hahead hw) (.refl _)
    have hnext := hahead.trans hgrown
    obtain ⟨t, ht, _⟩ := h w _ hw hnext
    exact ⟨hnext, t, ht⟩

/-- A spec that is run again on the files that its runs have left, with page, session and picks as
they were at first, ends as it did the first time: with the same result, calls, notices and page. No
more than the files may differ. -/
theorem runSpec_again (spec : Spec) (file : String) (o : Options) (w : World)
    (hdirectory : w.files.isDirectory (Path.ofString file).parent = true)
    (hname : IsComponent o.screenshotsDirname) (n : Nat) :
    ∃ t, outcome (runSpec spec (Path.ofString file) o)
        (again (runSpec spec (Path.ofString file) o) w n) =
      ((outcome (runSpec spec (Path.ofString file) o) w).1,
        (outcome (runSpec spec (Path.ofString file) o) w).2.withFiles t) := by
  obtain ⟨s, hpath, hstands⟩ := Site.exists_of_isDirectory hdirectory hname.notDots.2
  have hs : screenshotDirectory (Path.ofString file) o.screenshotsDirname = s.path := by
    rw [hpath]
    exact Path.join_name _ hname.noSlash hname.nonempty hname.notDots.1
  exact ((Alike.runSpec spec hs).again hstands n).2

theorem runSpec_again_shop :
    shopWorld.files.isDirectory (Path.ofString "shop.yaml").parent = true ∧
      IsComponent ({} : Options).screenshotsDirname ∧
      (again (runSpec shopSpec (Path.ofString "shop.yaml") {}) shopWorld 1).files.at?
        ["screenshots", "shop-sign-in.png"] = some (.file imageContent) ∧
      ∃ t, outcome (runSpec shopSpec (Path.ofString "shop.yaml") {})
          (again (runSpec shopSpec (Path.ofString "shop.yaml") {}) shopWorld 1) =
        ((outcome (runSpec shopSpec (Path.ofString "shop.yaml") {}) shopWorld).1,
          (outcome (runSpec shopSpec (Path.ofString "shop.yaml") {}) shopWorld).2.withFiles t) := by
  have hdirectory : shopWorld.files.isDirectory (Path.ofString "shop.yaml").parent = true := by
    decide
  have hname : IsComponent ({} : Options).screenshotsDirname :=
    ⟨by decide, by decide, by decide, by decide⟩
  refine ⟨hdirectory, hname, ?_, runSpec_again shopSpec "shop.yaml" {} shopWorld hdirectory hname 1⟩
  decide +kernel

end FeatureRun.Run
