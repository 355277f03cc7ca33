import FeatureRun.Proofs.FailFast

/-!
What a part of a run does about pictures: the paths that it asks the page for, the files that it
writes and the pictures that it reports. All operations on the page but the screenshot do nothing
of the sort.
-/
namespace FeatureRun.Browser
open FeatureRun.Files

def Call.shot? : Call → Option Path
  | .screenshot path _ => some path
  | _ => none

end FeatureRun.Browser

namespace FeatureRun.Run
open FeatureRun.Text FeatureRun.Data FeatureRun.Files FeatureRun.Spec FeatureRun.Browser

/-- A picture as it is reported: whether it is that of a failure, and its path as it is shown. -/
structure Picture where
  ofFailure : Bool
  file : String
deriving DecidableEq, Repr

def Notice.picture? : Notice → Option Picture
  | .screenshotTaken path => some ⟨false, path.text⟩
  | .scenarioFailed _ shot => shot.map fun file => ⟨true, file⟩
  | _ => none

/-- The pictures that are written from one tree of files to another. Directories may be made before
and after each of them. -/
inductive Wrote : Tree → List Path → Tree → Prop
  | none (t : Tree) : Wrote t [] t
  | directories {t t' : Tree} {ps : List Path} (p : Path) :
      Wrote t ps t' → Wrote t ps (t'.haveDirectories p).tree
  | picture {t t' t'' : Tree} {ps : List Path} {p : Path} :
      Wrote t ps t' → t'.write p imageContent = .ok t'' → Wrote t (ps ++ [p]) t''

theorem Wrote.trans {t t' t'' : Tree} {ps qs : List Path} (h : Wrote t ps t')
    (h' : Wrote t' qs t'') : Wrote t (ps ++ qs) t'' := by
  induction h' with
  | none => rwa [List.append_nil]
  | directories p _ ih => exact .directories p ih
  | picture _ hw ih =>
    rw [← List.append_assoc]
    exact .picture ih hw

/-- What is done about pictures from one world to another: the paths that are asked for, those that
are written, and the pictures that are reported. -/
structure Trail (w : World) (asked written : List Path) (shown : List Picture) (w' : World) :
    Prop where
  calls : ∃ added, w'.calls = w.calls ++ added ∧ added.filterMap Call.shot? = asked
  files : Wrote w.files written w'.files
  notices : ∃ added, w'.notices = w.notices ++ added ∧ added.filterMap Notice.picture? = shown

namespace Trail
variable {w w' w'' : World} {asked asked' written written' : List Path}
  {shown shown' : List Picture}

theorem refl (w : World) : Trail w [] [] [] w where
  calls := ⟨[], (List.append_nil _).symm, rfl⟩
  files := .none _
  notices := ⟨[], (List.append_nil _).symm, rfl⟩

theorem trans (h : Trail w asked written shown w') (h' : Trail w' asked' written' shown' w'') :
    Trail w (asked ++ asked') (written ++ written') (shown ++ shown') w'' := by
  obtain ⟨⟨cs, hcs, hasked⟩, hfiles, ns, hns, hshown⟩ := h
  obtain ⟨⟨cs', hcs', hasked'⟩, hfiles', ns', hns', hshown'⟩ := h'
  refine ⟨⟨cs ++ cs', ?_, ?_⟩, hfiles.trans hfiles', ns ++ ns', ?_, ?_⟩
  · rw [hcs', hcs, List.append_assoc]
  · rw [List.filterMap_append, hasked, hasked']
  · rw [hns', hns, List.append_assoc]
  · rw [List.filterMap_append, hshown, hshown']

/-- What sees neither calls nor files nor notices leaves no trail. -/
theorem of_eq (hc : w'.calls = w.calls) (hf : w'.files = w.files) (hn : w'.notices = w.notices) :
    Trail w [] [] [] w' where
  calls := ⟨[], by rw [hc, List.append_nil], rfl⟩
  files := hf ▸ .none _
  notices := ⟨[], by rw [hn, List.append_nil], rfl⟩

theorem notice (w : World) (n : Notice) :
    Trail w [] [] n.picture?.toList { w with notices := w.notices ++ [n] } where
  calls := ⟨[], (List.append_nil _).symm, rfl⟩
  files := .none _
  notices := ⟨[n], rfl, by cases h : n.picture? <;> simp [h]⟩

theorem call (w : World) (c : Call) :
    Trail w c.shot?.toList [] [] { w with calls := w.calls ++ [c] } where
  calls := ⟨[c], rfl, by cases h : c.shot? <;> simp [h]⟩
  files := .none _
  notices := ⟨[], (List.append_nil _).symm, rfl⟩

end Trail

/-- The part has nothing to do with pictures. -/
def Plain {α : Type} (r : Run α) : Prop := ∀ w, Trail w [] [] [] (outcome r w).2

namespace Plain
variable {α β : Type}

theorem pure (x : α) : Plain (pure x : Run α) := Trail.refl

theorem throw (e : Failure) : Plain (throw e : Run α) := Trail.refl

theorem bind {r : Run α} {f : α → Run β} (h : Plain r) (hf : ∀ x, Plain (f x)) :
    Plain (r >>= f) := by
  intro w
  have hr := h w
  rw [outcome_bind]
  rcases ho : outcome r w with ⟨e | x, w'⟩ <;> rw [ho] at hr
  · exact hr
  · exact hr.trans (hf x w')

theorem tryCatch {r : Run α} {handle : Failure → Run α} (h : Plain r)
    (hh : ∀ e, Plain (handle e)) : Plain (tryCatch r handle) := by
  intro w
  have hr := h w
  rw [outcome_tryCatch]
  rcases ho : outcome r w with ⟨e | x, w'⟩ <;> rw [ho] at hr
  · exact hr.trans (hh e w')
  · exact hr

theorem ofExcept {ε : Type} (wrap : ε → Failure) (r : Except ε α) : Plain (ofExcept wrap r) := by
  cases r with
  | ok x => exact .pure x
  | error e => exact .throw (wrap e)

theorem say {n : Notice} (h : n.picture? = none) : Plain (say n) := by
  intro w
  have hn := Trail.notice w n
  rwa [h] at hn

theorem haveDirectories (p : Path) : Plain (haveDirectories p) := by
  intro w
  rw [outcome_haveDirectories]
  exact ⟨⟨[], (List.append_nil _).symm, rfl⟩, .directories p (.none _),
    [], (List.append_nil _).symm, rfl⟩

/-- What sees the page alone has nothing to do with pictures. -/
theorem ofPaged {r : Run α} (h : Paged r) : Plain r := by
  induction h with
  | value x => exact pure x
  | @fail _ e _ => exact throw e
  | andThen _ _ ihr ihf => exact ihr.bind ihf
  | handle _ _ hi ihr ihh => exact ihr.tryCatch (of_handler ihh hi throw)
  | look _ ih =>
    intro w
    rw [outcome_bind_ok (outcome_get w)]
    exact ih w.page w
  | @call c hc =>
    intro w
    have hw := Trail.call w c
    have hshot : c.shot? = none := by cases c <;> first | rfl | exact absurd rfl hc
    rwa [hshot] at hw
  | change _ => exact fun _ => .of_eq rfl rfl rfl
  | meet op =>
    intro w
    rw [outcome_meetFault]
    exact .of_eq rfl rfl rfl

end Plain

/-- A picture is asked for, and it is written exactly if nothing fails. -/
theorem screenshot_trail (path : Path) (w : World) :
    (∃ w', outcome (screenshot path) w = (.ok (), w') ∧ Trail w [path] [path] [] w') ∨
    ∃ e w', outcome (screenshot path) w = (.error e, w') ∧ Trail w [path] [] [] w' := by
  simp only [screenshot, record, outcome_bind, outcome_modify, outcome_meetFault]
  cases (takeFault (Call.screenshot path true).op w.page.faults).1 with
  | some e =>
    exact .inr ⟨e, _, rfl, ⟨[.screenshot path true], rfl, rfl⟩, .none _,
      [], (List.append_nil _).symm, rfl⟩
  | none =>
    simp only [outcome_get, outcome_ofExcept]
    cases hw : w.files.write path imageContent with
    | error e =>
      exact .inr ⟨.file e, _, rfl, ⟨[.screenshot path true], rfl, rfl⟩, .none _,
        [], (List.append_nil _).symm, rfl⟩
    | ok t =>
      exact .inl ⟨_, rfl, ⟨[.screenshot path true], rfl, rfl⟩, .picture (.none _) hw,
        [], (List.append_nil _).symm, rfl⟩

/-- A capture that fails passes the failure on or makes a warning of it, and neither has to do with
pictures. -/
private theorem captureFailure_failed {path : Path} {w v : World} {e : Failure} {asked : List Path}
    (ho : outcome (do haveDirectories path.parent; screenshot path; pure (some path.text)) w =
      (.error e, v)) (ht : Trail w asked [] [] v) :
    ∃ r w', outcome (captureFailure path) w = (r, w') ∧ (∀ file, r ≠ .ok (some file)) ∧
      Trail w asked [] [] w' := by
  rw [captureFailure, outcome_rescue, ho]
  dsimp only
  split
  · refine ⟨.error e, v, rfl, fun file h => ?_, ht⟩
    cases h
  · refine ⟨.ok none, _, rfl, fun file h => ?_, ?_⟩
    · cases h
    · have hn := ht.trans (.notice v (notCaptured path e))
      rwa [List.append_nil] at hn

/-- A capture of a failure gives the picture exactly if it is written. -/
theorem captureFailure_trail (path : Path) (w : World) :
    (∃ w', outcome (captureFailure path) w = (.ok (some path.text), w') ∧
      Trail w [path] [path] [] w') ∨
    ∃ r asked w', outcome (captureFailure path) w = (r, w') ∧ (∀ file, r ≠ .ok (some file)) ∧
      (asked = [] ∨ asked = [path]) ∧ Trail w asked [] [] w' := by
  have hw := Plain.haveDirectories path.parent w
  rcases hdir : outcome (haveDirectories path.parent) w with ⟨e | _, v⟩ <;> rw [hdir] at hw
  · obtain ⟨r, w', hr, hfile, ht⟩ := captureFailure_failed (outcome_bind_error hdir) hw
    exact .inr ⟨r, [], w', hr, hfile, .inl rfl, ht⟩
  · rcases screenshot_trail path v with ⟨v', hs, ht⟩ | ⟨e, v', hs, ht⟩
    · refine .inl ⟨v', ?_, hw.trans ht⟩
      rw [captureFailure, outcome_rescue, outcome_bind_ok hdir, outcome_bind_ok hs]
      rfl
    · have ho : outcome (do haveDirectories path.parent; screenshot path; pure (some path.text)) w =
          (.error e, v') := by rw [outcome_bind_ok hdir, outcome_bind_error hs]
      obtain ⟨r, w', hr, hfile, ht⟩ := captureFailure_failed ho (hw.trans ht)
      exact .inr ⟨r, [path], w', hr, hfile, .inr rfl, ht⟩

end FeatureRun.Run
