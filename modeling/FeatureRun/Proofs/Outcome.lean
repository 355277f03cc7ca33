import FeatureRun.Run.Runner

/-!
Outcomes of the parts of a run, one equation for each way in which parts are put together. Later
proofs rewrite with these and never open the monad.
-/
namespace FeatureRun.Run
open FeatureRun.Data FeatureRun.Files FeatureRun.Browser

variable {α β : Type} {w : World}

@[simp] theorem outcome_pure (x : α) (w : World) : outcome (pure x) w = (.ok x, w) := rfl

@[simp] theorem outcome_throw (e : Failure) (w : World) :
    outcome (throw e : Run α) w = (.error e, w) := rfl

@[simp] theorem outcome_get (w : World) : outcome get w = (.ok w, w) := rfl

@[simp] theorem outcome_modify (f : World → World) (w : World) :
    outcome (modify f) w = (.ok (), f w) := rfl

@[simp] theorem outcome_set (v w : World) : outcome (set v) w = (.ok (), v) := rfl

@[simp] theorem outcome_say (n : Notice) (w : World) :
    outcome (say n) w = (.ok (), { w with notices := w.notices ++ [n] }) := rfl

@[simp] theorem outcome_ofExcept {ε : Type} (wrap : ε → Failure) (r : Except ε α) (w : World) :
    outcome (ofExcept wrap r) w = (r.mapError wrap, w) := by
  cases r <;> rfl

/-- A part goes on with the value of the one before it, in the world that it leaves. -/
theorem outcome_bind (r : Run α) (f : α → Run β) (w : World) :
    outcome (r >>= f) w =
      match outcome r w with
      | (.ok x, w') => outcome (f x) w'
      | (.error e, w') => (.error e, w') := by
  change ExceptT.bindCont f (r w).1 (r w).2 = _
  simp only [outcome, ExceptT.run, StateT.run]
  rcases r w with ⟨_ | _, w'⟩ <;> rfl

theorem outcome_bind_ok {r : Run α} {f : α → Run β} {w w' : World} {x : α}
    (h : outcome r w = (.ok x, w')) : outcome (r >>= f) w = outcome (f x) w' := by
  rw [outcome_bind, h]

theorem outcome_bind_error {r : Run α} {f : α → Run β} {w w' : World} {e : Failure}
    (h : outcome r w = (.error e, w')) : outcome (r >>= f) w = (.error e, w') := by
  rw [outcome_bind, h]

private theorem outcome_map (g : α → β) (r : Run α) (w : World) :
    outcome (g <$> r) w = ((outcome r w).1.map g, (outcome r w).2) := by
  rw [← bind_pure_comp, outcome_bind]
  rcases outcome r w with ⟨_ | _, w'⟩ <;> rfl

theorem outcome_tryCatch (r : Run α) (handle : Failure → Run α) (w : World) :
    outcome (tryCatch r handle) w =
      match outcome r w with
      | (.ok x, w') => (.ok x, w')
      | (.error e, w') => outcome (handle e) w' := by
  simp only [outcome, ExceptT.run, StateT.run, tryCatch, tryCatchThe, MonadExceptOf.tryCatch,
    ExceptT.tryCatch, ExceptT.mk, bind, StateT.bind]
  rcases r w with ⟨_ | _, w'⟩ <;> rfl

/-- What was made before a failure stays. -/
theorem outcome_haveDirectories (p : Path) (w : World) :
    outcome (haveDirectories p) w =
      ((w.files.haveDirectories p).failure?.elim (.ok ()) fun e => .error (.file e),
        { w with files := (w.files.haveDirectories p).tree }) := by
  simp only [haveDirectories, outcome_bind, outcome_get, outcome_modify]
  cases (w.files.haveDirectories p).failure? <;> rfl

/-- The cleanup runs in the world that the body leaves; a failure of the cleanup is the one that
counts. -/
theorem outcome_andAlways (body : Run α) (cleanup : Run Unit) (w : World) :
    outcome (andAlways body cleanup) w =
      match outcome cleanup (outcome body w).2 with
      | (.ok _, w') => ((outcome body w).1, w')
      | (.error e, w') => (.error e, w') := by
  rw [andAlways, outcome_bind, outcome_tryCatch, outcome_map]
  rcases outcome body w with ⟨e | x, w'⟩
  · simp only [Except.map, outcome_pure, outcome_bind]
    rcases outcome cleanup w' with ⟨_ | _, _⟩ <;> rfl
  · simp only [Except.map, outcome_bind]
    rcases outcome cleanup w' with ⟨_ | _, _⟩ <;> rfl

theorem outcome_undoing (cleanup : Run Unit) (body : Run α) (w : World) :
    outcome (undoing cleanup body) w =
      match outcome body w with
      | (.ok x, w') => (.ok x, w')
      | (.error e, w') =>
        match outcome cleanup w' with
        | (.ok _, w'') => (.error e, w'')
        | (.error e', w'') => (.error e', w'') := by
  rw [undoing, outcome_tryCatch]
  rcases outcome body w with ⟨e | x, w'⟩
  · simp only [outcome_bind, outcome_throw]
    rcases outcome cleanup w' with ⟨_ | _, _⟩ <;> rfl
  · rfl

theorem outcome_rescue (body : Run α) (handle : Failure → Run α) (w : World) :
    outcome (rescue body handle) w =
      match outcome body w with
      | (.ok x, w') => (.ok x, w')
      | (.error e, w') => if e.isInterrupt then (.error e, w') else outcome (handle e) w' := by
  rw [rescue, outcome_tryCatch]
  rcases outcome body w with ⟨e | x, w'⟩
  · by_cases h : e.isInterrupt <;> simp [h]
  · rfl

theorem outcome_onEngineFault (body : Run Unit) (handle : EngineError → Run Unit) (w : World) :
    outcome (onEngineFault body handle) w =
      match outcome body w with
      | (.ok x, w') => (.ok x, w')
      | (.error (.engine fault), w') => outcome (handle fault) w'
      | (.error e, w') => (.error e, w') := by
  rw [onEngineFault, outcome_tryCatch]
  rcases outcome body w with ⟨e | x, w'⟩
  · cases e <;> rfl
  · rfl

end FeatureRun.Run
