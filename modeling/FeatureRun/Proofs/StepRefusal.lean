import FeatureRun.Proofs.NumberLimits
import FeatureRun.Proofs.ValueTexts
import FeatureRun.Spec.Step

/-!
The failures that leave the reading of a step. A step makes a refusal of every failure of its
payload but two: an integer that is waited for and lies beyond the reals, and a value that the
action does not take and that is too deep to be shown. Main statement: `step_conversion_iff`.
-/
namespace FeatureRun.Spec
open FeatureRun.Text FeatureRun.Number FeatureRun.Data

section Payloads
variable {α β : Type}

theorem ok_mapError {ε ε' : Type} (wrap : ε → ε') (x : α) :
    (Except.ok x).mapError wrap = .ok x := rfl

theorem error_mapError {ε ε' : Type} (wrap : ε → ε') (e : ε) :
    (Except.error e : Except ε α).mapError wrap = .error (wrap e) := rfl

theorem ok_bind {ε : Type} (x : α) (f : α → Except ε β) : (Except.ok x >>= f) = f x := rfl

/-- The part fails in a way that no step makes a refusal of. -/
def Leaves (r : Except PayloadError α) : Prop :=
  ∃ c, r = .error (.conversion c) ∧ c.isMalformed = false

namespace Leaves
variable {r : Except PayloadError α}

private theorem not_ok (x : α) : ¬ Leaves (.ok x) := by
  rintro ⟨c, hc, _⟩
  cases hc

private theorem bind_iff {f : α → Except PayloadError β} :
    Leaves (r >>= f) ↔ Leaves r ∨ ∃ x, r = .ok x ∧ Leaves (f x) := by
  cases r with
  | ok x =>
    refine ⟨fun h => .inr ⟨x, rfl, h⟩, ?_⟩
    rintro (h | ⟨_, hx, h⟩)
    · exact absurd h (not_ok x)
    · cases hx
      exact h
  | error e =>
    constructor
    · rintro ⟨c, hc, hleaves⟩
      cases hc
      exact .inl ⟨c, rfl, hleaves⟩
    · rintro (⟨c, hc, hleaves⟩ | ⟨_, hx, _⟩)
      · cases hc
        exact ⟨c, rfl, hleaves⟩
      · cases hx

private theorem not_bind {f : α → Except PayloadError β} (h : ¬ Leaves r)
    (hf : ∀ x, ¬ Leaves (f x)) :
    ¬ Leaves (r >>= f) := by
  rw [bind_iff]
  rintro (hr | ⟨x, _, hx⟩)
  · exact h hr
  · exact hf x hx

private theorem map_iff {g : α → β} : Leaves (r.map g) ↔ Leaves r := by
  have hmap : r.map g = r >>= fun x => .ok (g x) := by cases r <;> rfl
  rw [hmap, bind_iff]
  refine or_iff_left ?_
  rintro ⟨x, _, hx⟩
  exact not_ok _ hx

private theorem not_converted {long : Bool} {r : Except ConversionError α}
    (h : ThereUnless long r) :
    ¬ Leaves (r.mapError .conversion) := by
  rintro ⟨c, hc, hleaves⟩
  cases h with
  | there x => cases hc
  | tooLong =>
    cases hc
    cases hleaves

end Leaves

/-- What is refused for its value leaves the step if the value is too deep to be shown. -/
private theorem refuse_leaves (v : Value) (error : String → PayloadError)
    (he : ∀ s c, error s ≠ .conversion c) :
    Leaves (refuse v error : Except PayloadError α) ↔ v.TooDeep := by
  have hs := v.shown_unless
  unfold refuse Leaves Value.TooDeep
  generalize v.showsLong [] = long, v.exceeds depthLimit = deep, v.shown = r at hs
  cases hs with
  | there s =>
    refine iff_of_false ?_ nofun
    rintro ⟨c, hc, _⟩
    exact he s c (Except.error.inj hc)
  | tooLong =>
    refine iff_of_false ?_ nofun
    rintro ⟨c, hc, hleaves⟩
    cases hc
    cases hleaves
  | tooDeep => exact iff_of_true ⟨_, rfl, rfl⟩ rfl

private theorem textPayload_leaves (v : Value) : Leaves (textPayload v) ↔ v.TooDeep := by
  unfold textPayload
  split
  · exact refuse_leaves _ _ nofun
  · exact refuse_leaves _ _ nofun
  · rename_i n
    refine iff_of_false ?_ (Value.not_tooDeep rfl)
    exact Leaves.not_bind (Leaves.not_converted (integerText_unless n)) fun _ => Leaves.not_ok _
  · exact iff_of_false (Leaves.not_ok _) (Value.not_tooDeep rfl)
  · split
    · exact refuse_leaves _ _ nofun
    · exact iff_of_false (Leaves.not_ok _) (Value.not_tooDeep rfl)
  · exact refuse_leaves _ _ nofun

theorem textPayload_tooDeep {v : Value} (h : v.TooDeep) :
    textPayload v = .error (.conversion .tooDeep) := by
  have hrefuse : ∀ error : String → PayloadError,
      (refuse v error : Except PayloadError (List CodePoint)) = .error (.conversion .tooDeep) := by
    intro error
    rw [refuse, h]
  unfold textPayload
  split
  · exact hrefuse _
  · exact hrefuse _
  · exact absurd h (Value.not_tooDeep rfl)
  · exact absurd h (Value.not_tooDeep rfl)
  · exact absurd h (Value.not_tooDeep rfl)
  · exact hrefuse _

private theorem recordOf_stays (name : String) (issues : List Issue) (value : Option α) :
    ¬ Leaves (recordOf name issues value) := by
  unfold recordOf
  split
  · exact Leaves.not_ok _
  · rintro ⟨c, hc, _⟩
    cases hc

private theorem readText_unless (v : Value) : ∃ long, ThereUnless long (readText v) := by
  unfold readText
  split
  · exact ⟨_, .there _⟩
  · exact ⟨_, (integerText_unless _).map⟩
  · exact ⟨_, .there _⟩
  · split <;> exact ⟨_, .there _⟩
  · exact ⟨_, .there _⟩

private theorem nonEmptyText_unless (v : Value) : ∃ long, ThereUnless long (nonEmptyText v) := by
  unfold nonEmptyText
  split
  · exact ⟨_, .there _⟩
  · obtain ⟨_, h⟩ := readText_unless v
    exact ⟨_, h.map⟩

private theorem requiredField_stays (entries : List (Value × Value)) (name : String)
    {read : Value → Except ConversionError (Field String)}
    (hr : ∀ v, ∃ long, ThereUnless long (read v)) :
    ¬ Leaves ((requiredField entries name read).mapError .conversion) := by
  unfold requiredField
  split
  · obtain ⟨_, h⟩ := hr _
    exact Leaves.not_converted h
  · exact Leaves.not_ok _

private theorem pairPayload_stays (record first second : String)
    (entries : List (Value × Value)) : ¬ Leaves (pairPayload record first second entries) := by
  unfold pairPayload
  refine Leaves.not_bind (requiredField_stays entries first nonEmptyText_unless) fun a => ?_
  refine Leaves.not_bind (requiredField_stays entries second readText_unless) fun b => ?_
  exact recordOf_stays _ _ _

private theorem formPayload_leaves (record first second : String) (v : Value) :
    Leaves (formPayload record first second v) ↔ v.entries? = none ∧ v.TooDeep := by
  unfold formPayload
  split
  · rename_i hentries
    refine iff_of_false (pairPayload_stays _ _ _ _) fun h => ?_
    rw [hentries] at h
    cases h.1
  · rename_i hentries
    exact (refuse_leaves v (.notRecord [first, second]) nofun).trans (and_iff_right hentries).symm

private theorem selectorPayload_stays (entries : List (Value × Value)) :
    ¬ Leaves (selectorPayload entries) := by
  unfold selectorPayload
  refine Leaves.not_bind (requiredField_stays entries "selector" nonEmptyText_unless) fun a => ?_
  exact recordOf_stays _ _ _

private theorem awaitRecord_stays (entries : List (Value × Value)) :
    ¬ Leaves (awaitRecord entries) := by
  unfold awaitRecord
  refine Leaves.not_bind (requiredField_stays entries "text" nonEmptyText_unless) fun a => ?_
  exact recordOf_stays _ _ _

private theorem readReal_stays (s : List Char) : ¬ Leaves ((readReal s).mapError .conversion) := by
  rintro ⟨c, hc, hleaves⟩
  rw [readReal, readRealAs] at hc
  cases hr : readReal? s with
  | some x =>
    rw [hr] at hc
    cases hc
  | none =>
    rw [hr] at hc
    cases hc
    cases hleaves

private theorem writtenMilliseconds_stays (v : Value) : ¬ Leaves (writtenMilliseconds v) := by
  unfold writtenMilliseconds
  split
  · dsimp only
    split
    · split
      · exact mt Leaves.map_iff.mp (readReal_stays _)
      · exact Leaves.not_ok _
    · exact Leaves.not_ok _
  · exact Leaves.not_ok _

/-- A text stands for itself, for a number with a fraction or for nothing. -/
private theorem writtenMilliseconds_text {s : List CodePoint} {number : Value}
    (h : writtenMilliseconds (.text s) = .ok number) :
    number.depthIn [] = 1 ∧ ∀ n, number ≠ .int n := by
  unfold writtenMilliseconds at h
  dsimp only at h
  split at h
  · split at h
    · cases hr : (readReal (trim (trim (asCharacters s)).dropLast.dropLast)).mapError
          PayloadError.conversion with
      | ok x =>
        rw [hr] at h
        cases h
        exact ⟨rfl, nofun⟩
      | error e =>
        rw [hr] at h
        cases h
    · cases h
      exact ⟨rfl, nofun⟩
  · cases h
    exact ⟨rfl, nofun⟩

/-- A value other than a text stands for itself. -/
private theorem writtenMilliseconds_self {v : Value} (h : ∀ s, v ≠ .text s) :
    writtenMilliseconds v = .ok v := by
  unfold writtenMilliseconds
  split
  · exact absurd rfl (h _)
  · rfl

theorem writtenMilliseconds_int {v : Value} {n : Int}
    (h : writtenMilliseconds v = .ok (.int n)) : v = .int n := by
  cases v with
  | text s => exact absurd rfl ((writtenMilliseconds_text h).2 n)
  | int _ =>
    cases h
    rfl
  | _ => cases h

/-- A number of milliseconds leaves the step if it is an integer beyond the reals, and what is none
if it is too deep to be shown. -/
private theorem milliseconds_leaves (number : Value) :
    Leaves (milliseconds number) ↔
      (∃ n : Int, number = .int n ∧ (realLimit : Int) ≤ n) ∨ number.TooDeep := by
  unfold milliseconds
  split
  · rename_i n
    have hshort : ¬ (Value.int n).TooDeep := Value.not_tooDeep rfl
    have hint : (∃ m : Int, Value.int n = .int m ∧ (realLimit : Int) ≤ m) ↔
        (realLimit : Int) ≤ n := by
      refine ⟨?_, fun h => ⟨n, rfl, h⟩⟩
      rintro ⟨m, hm, h⟩
      cases hm
      exact h
    rw [or_iff_left hshort, hint]
    split
    · rename_i hn
      rw [refuse_leaves _ .notMilliseconds nofun]
      refine iff_of_false hshort fun h => ?_
      omega
    · rename_i hn
      have habs : (realLimit : Int) ≤ n ↔ realLimit ≤ n.natAbs := by omega
      rw [habs]
      constructor
      · rintro ⟨c, hc, _⟩
        cases hr : realOfInt n with
        | ok x =>
          rw [hr] at hc
          cases hc
        | error e => exact ((realOfInt_error_iff n).mp hr).1
      · intro h
        rw [(realOfInt_error_iff n).mpr ⟨h, rfl⟩]
        exact ⟨_, rfl, rfl⟩
  · rename_i x
    have hnone : ¬ ((∃ n : Int, Value.real x = .int n ∧ (realLimit : Int) ≤ n) ∨
        (Value.real x).TooDeep) := by
      rintro (⟨n, hn, _⟩ | hdeep)
      · cases hn
      · exact Value.not_tooDeep rfl hdeep
    split
    · rw [refuse_leaves _ .notMilliseconds nofun]
      exact iff_of_false (Value.not_tooDeep rfl) hnone
    · exact iff_of_false (Leaves.not_ok _) hnone
  · rename_i hint _
    rw [refuse_leaves _ .notMilliseconds nofun]
    refine (or_iff_right ?_).symm
    rintro ⟨n, hn, _⟩
    exact hint n hn

private theorem waitPayload_leaves (v : Value) :
    Leaves (waitPayload v) ↔
      (∃ n : Int, v = .int n ∧ (realLimit : Int) ≤ n) ∨ v.TooDeep := by
  unfold waitPayload
  rw [Leaves.bind_iff, or_iff_right (writtenMilliseconds_stays v)]
  by_cases htext : ∃ s, v = .text s
  · obtain ⟨s, rfl⟩ := htext
    refine iff_of_false ?_ ?_
    · rintro ⟨number, hwritten, hleaves⟩
      obtain ⟨hdepth, hint⟩ := writtenMilliseconds_text hwritten
      rcases (milliseconds_leaves number).mp hleaves with ⟨n, hn, _⟩ | hdeep
      · exact hint n hn
      · exact Value.not_tooDeep hdepth hdeep
    · rintro (⟨n, hn, _⟩ | hdeep)
      · cases hn
      · exact Value.not_tooDeep rfl hdeep
  · rw [writtenMilliseconds_self fun s hs => htext ⟨s, hs⟩, ← milliseconds_leaves v]
    constructor
    · rintro ⟨_, hv, hleaves⟩
      cases hv
      exact hleaves
    · exact fun h => ⟨v, rfl, h⟩

def TakesRecord : Action → Prop
  | .await _ | .form _ | .click => True
  | .text _ | .wait => False

/-- An instruction leaves the step in two ways: it waits for a number beyond the reals, or what it
does not take is too deep to be shown. -/
theorem instruction_leaves (a : Action) (v : Value) :
    Leaves (Instruction.parse a v) ↔
      (a = .wait ∧ ∃ n : Int, v = .int n ∧ (realLimit : Int) ≤ n) ∨
        (TakesRecord a → v.entries? = none) ∧ v.TooDeep := by
  -- The limit is not to be computed, so the wait is named.
  generalize hlong : (∃ n : Int, v = .int n ∧ (realLimit : Int) ≤ n) = Long
  cases a with
  | text a =>
    have hparse : Instruction.parse (.text a) v =
        (textPayload v).map fun s => .text a (asString s) := rfl
    rw [hparse, Leaves.map_iff, textPayload_leaves]
    simp [TakesRecord]
  | await w =>
    unfold Instruction.parse
    dsimp only
    split
    · rename_i hentries
      refine iff_of_false (mt Leaves.map_iff.mp (awaitRecord_stays _)) ?_
      simp [TakesRecord, hentries]
    · rename_i hentries
      have hrecord : ∀ s, ¬ Leaves (awaitRecord [(.text "text", .text s)] >>= fun r =>
          .ok (Instruction.await w r.1 r.2)) :=
        fun s => Leaves.not_bind (awaitRecord_stays _) fun _ => Leaves.not_ok _
      rw [Leaves.bind_iff, textPayload_leaves, or_iff_left fun ⟨s, _, h⟩ => hrecord s h]
      simp [TakesRecord, hentries]
  | form f =>
    have hparse : ∃ record first second, ∃ g : String × String → Instruction,
        Instruction.parse (.form f) v = (formPayload record first second v).map g := by
      cases f <;> exact ⟨_, _, _, _, rfl⟩
    obtain ⟨record, first, second, g, hg⟩ := hparse
    rw [hg, Leaves.map_iff, formPayload_leaves]
    simp [TakesRecord]
  | click =>
    unfold Instruction.parse
    dsimp only
    split
    · rename_i hentries
      refine iff_of_false (mt Leaves.map_iff.mp (selectorPayload_stays _)) ?_
      simp [TakesRecord, hentries]
    · rename_i hentries
      rw [Leaves.map_iff, textPayload_leaves]
      simp [TakesRecord, hentries]
  | wait =>
    have hparse : Instruction.parse .wait v = (waitPayload v).map .wait := rfl
    rw [hparse, Leaves.map_iff, waitPayload_leaves, hlong]
    simp [TakesRecord]

theorem instruction_leaves_of_ne {a : Action} (h : a ≠ .wait) (v : Value) :
    Leaves (Instruction.parse a v) ↔ (TakesRecord a → v.entries? = none) ∧ v.TooDeep :=
  (instruction_leaves a v).trans (or_iff_right fun hwait => h hwait.1)

end Payloads

section Steps

def FirstEscapes (Reads Escapes : Value → Prop) (xs : List Value) : Prop :=
  ∃ before x after, xs = before ++ x :: after ∧ (∀ y ∈ before, Reads y) ∧ Escapes x

theorem firstEscapes_nil {Reads Escapes : Value → Prop} : ¬ FirstEscapes Reads Escapes [] := by
  rintro ⟨before, x, after, h, _⟩
  cases before <;> cases h

theorem firstEscapes_cons {Reads Escapes : Value → Prop} {x : Value} {xs : List Value} :
    FirstEscapes Reads Escapes (x :: xs) ↔ Escapes x ∨ Reads x ∧ FirstEscapes Reads Escapes xs := by
  constructor
  · rintro ⟨before, y, after, h, hb, hy⟩
    cases before with
    | nil =>
      cases h
      exact .inl hy
    | cons z before =>
      cases h
      exact .inr ⟨hb x List.mem_cons_self, before, y, after, rfl,
        fun w hw => hb w (List.mem_cons_of_mem x hw), hy⟩
  · rintro (hx | ⟨hx, before, y, after, rfl, hb, hy⟩)
    · exact ⟨[], x, xs, rfl, fun _ h => absurd h List.not_mem_nil, hx⟩
    · refine ⟨x :: before, y, after, rfl, ?_, hy⟩
      intro z hz
      rcases List.mem_cons.mp hz with rfl | hz
      · exact hx
      · exact hb z hz

def IsStep (raw : Value) : Prop := ∃ step, Step.parse raw = .ok step

/-- The value holds what no refusal accounts for: a value without a text in the place of the step or
of a key, a payload that its action does not take and that is too deep to be shown, or an integer
beyond the reals that is waited for. -/
inductive StepEscapes (raw : Value) : Prop
  | noMapping : raw.entries? = none → raw.lacksText = true → StepEscapes raw
  | key {entries : List (Value × Value)} {key value : Value} :
      raw.entries? = some entries → (key, value) ∈ entries → key.lacksText = true →
      StepEscapes raw
  | payload {key value : Value} {name : String} {action : Action} :
      raw.entries? = some [(key, value)] → key.display = .ok name →
      Action.named? (strip name) = some action →
      (TakesRecord action → value.entries? = none) → value.TooDeep → StepEscapes raw
  | wait {key : Value} {name : String} {n : Int} :
      raw.entries? = some [(key, .int n)] → key.display = .ok name →
      Action.named? (strip name) = some .wait → (realLimit : Int) ≤ n → StepEscapes raw

private theorem noMapping_conversion {raw : Value} (h : raw.entries? = none) :
    (∃ c, Step.parse raw = .error (.conversion c)) ↔ raw.lacksText = true := by
  unfold Step.parse Value.lacksText
  rw [h, ← raw.shown_unless.error_iff]
  dsimp only
  cases raw.shown with
  | ok s => simp
  | error e => simp

/-- A step makes a refusal of each failure of its payload but those that leave it. -/
private theorem ofPayload_conversion (a : Action) (r : Except PayloadError Instruction) :
    (∃ c, (r.mapError (StepFailure.ofPayload a)).map Step.known =
      .error (StepFailure.conversion c)) ↔ Leaves r := by
  unfold Leaves
  refine exists_congr fun c => ?_
  cases r with
  | ok i => simp [ok_mapError, Except.map]
  | error e =>
    cases e with
    | conversion d =>
      cases hd : d.isMalformed with
      | false =>
        simp only [error_mapError, Except.map, StepFailure.ofPayload, hd, Bool.false_eq_true,
          if_false, Except.error.injEq, StepFailure.conversion.injEq, PayloadError.conversion.injEq]
        refine (and_iff_left_of_imp ?_).symm
        rintro rfl
        exact hd
      | true =>
        simp only [error_mapError, Except.map, StepFailure.ofPayload, hd, if_true,
          Except.error.injEq, PayloadError.conversion.injEq, reduceCtorEq, false_iff]
        rintro ⟨rfl, h⟩
        rw [hd] at h
        cases h
    | _ => simp [error_mapError, Except.map, StepFailure.ofPayload]

private theorem oneKey_conversion {raw key value : Value} (h : raw.entries? = some [(key, value)]) :
    (∃ c, Step.parse raw = .error (.conversion c)) ↔ key.lacksText = true ∨
      ∃ name a, key.display = .ok name ∧ Action.named? (strip name) = some a ∧
        Leaves (Instruction.parse a value) := by
  unfold Step.parse Value.lacksText
  rw [h, ← key.display_unless.error_iff]
  dsimp only
  cases hk : key.display with
  | error e => exact ⟨fun _ => .inl ⟨e, rfl⟩, fun _ => ⟨e, rfl⟩⟩
  | ok name =>
    simp only [ok_mapError, ok_bind, Except.ok.injEq, reduceCtorEq, exists_false, false_or]
    cases ha : Action.named? (strip name) with
    | none =>
      refine iff_of_false ?_ ?_
      · rintro ⟨c, hc⟩
        cases hc
      · rintro ⟨_, _, rfl, hnamed, _⟩
        rw [ha] at hnamed
        cases hnamed
    | some a =>
      dsimp only
      rw [ofPayload_conversion a (Instruction.parse a value)]
      constructor
      · exact fun hleaves => ⟨name, a, rfl, ha, hleaves⟩
      · rintro ⟨_, _, rfl, hnamed, hleaves⟩
        rw [ha] at hnamed
        cases hnamed
        exact hleaves

private theorem keys_conversion {raw : Value} {entries : List (Value × Value)}
    (h : raw.entries? = some entries) (hn : ∀ e, entries ≠ [e]) :
    (∃ c, Step.parse raw = .error (.conversion c)) ↔
      ∃ key value, (key, value) ∈ entries ∧ key.lacksText = true := by
  have hk : TextUnless (entries.any fun e => e.1.showsLong [])
      (entries.any fun e => e.1.exceeds depthLimit) (keyTexts entries) :=
    .mapM fun e => e.1.display_unless
  have hany : (∃ c, keyTexts entries = .error c) ↔
      ∃ key value, (key, value) ∈ entries ∧ key.lacksText = true := by
    rw [hk.error_iff, Bool.or_eq_true, List.any_eq_true, List.any_eq_true, ← exists_or]
    simp only [← and_or_left, ← Bool.or_eq_true, Prod.exists]
    rfl
  rw [← hany]
  unfold Step.parse
  rw [h]
  split
  · rename_i he
    cases he
  · rename_i key value he
    exact absurd (Option.some.inj he) (hn _)
  · rename_i found _ he
    cases he
    cases keyTexts entries with
    | ok texts => simp
    | error e => simp

/-- A step fails otherwise than by a refusal exactly if it holds what no refusal accounts for. -/
theorem step_conversion_iff (raw : Value) :
    (∃ c, Step.parse raw = .error (.conversion c)) ↔ StepEscapes raw := by
  cases h : raw.entries? with
  | none =>
    rw [noMapping_conversion h]
    constructor
    · exact .noMapping h
    · intro he
      cases he with
      | noMapping _ hs => exact hs
      | key h' _ _ => simp [h] at h'
      | payload h' _ _ _ _ => simp [h] at h'
      | wait h' _ _ _ => simp [h] at h'
  | some entries =>
    by_cases hn : ∃ e, entries = [e]
    · obtain ⟨⟨key, value⟩, rfl⟩ := hn
      rw [oneKey_conversion h]
      simp only [instruction_leaves]
      constructor
      · rintro (hk | ⟨name, a, hd, ha, ⟨rfl, n, rfl, hl⟩ | ⟨hrecord, hdeep⟩⟩)
        · exact .key h List.mem_cons_self hk
        · exact .wait h hd ha hl
        · exact .payload h hd ha hrecord hdeep
      · intro he
        cases he with
        | noMapping h' _ => simp [h] at h'
        | key h' hmem hk =>
          rw [h] at h'
          cases h'
          cases List.mem_singleton.mp hmem
          exact .inl hk
        | payload h' hd ha hrecord hdeep =>
          rw [h] at h'
          cases h'
          exact .inr ⟨_, _, hd, ha, .inr ⟨hrecord, hdeep⟩⟩
        | wait h' hd ha hl =>
          rw [h] at h'
          cases h'
          exact .inr ⟨_, _, hd, ha, .inl ⟨rfl, _, rfl, hl⟩⟩
    · have hn' : ∀ e, entries ≠ [e] := fun e he => hn ⟨e, he⟩
      rw [keys_conversion h hn']
      constructor
      · rintro ⟨key, value, hmem, hk⟩
        exact .key h hmem hk
      · intro he
        cases he with
        | noMapping h' _ => simp [h] at h'
        | key h' hmem hk =>
          rw [h] at h'
          cases h'
          exact ⟨_, _, hmem, hk⟩
        | payload h' _ _ _ _ =>
          rw [h] at h'
          exact absurd (Option.some.inj h') (hn' _)
        | wait h' _ _ _ =>
          rw [h] at h'
          exact absurd (Option.some.inj h') (hn' _)

end Steps

end FeatureRun.Spec
