import FeatureRun.Proofs.StepGrammar

/-!
The two ways to write a step that waits on a text: the text alone, and the record of that text. The
record is there for the timeout, so both should say the same. They do unless the record takes what
the bare form refuses, a text of blanks or bytes, or the value is too deep to be shown, which only
the bare form has to do. Main statement: `waitForms_agree_iff`.
-/
namespace FeatureRun.Spec
open FeatureRun.Text FeatureRun.Number FeatureRun.Data

section Forms
variable (w : TextWait)

def bareForm (v : Value) : Value := .map [(.text w.name, v)]

def recordForm (v : Value) : Value := bareForm w (.map [(.text "text", v)])

def IsRefused (raw : Value) : Prop := ∃ e, Step.parse raw = .error (.refused e)

def WaitsOn (s : String) (raw : Value) : Prop :=
  Step.parse raw = .ok (.known (.await w s none))

/-- Both forms are refused, or both are the same step. -/
def FormsAgree (v : Value) : Prop :=
  IsRefused (bareForm w v) ∧ IsRefused (recordForm w v) ∨
    ∃ s, WaitsOn w s (bareForm w v) ∧ WaitsOn w s (recordForm w v)

/-- What a record takes for a text where the bare form does not. -/
inductive RecordOnly : Value → String → Prop
  | blank {s : List CodePoint} : s ≠ [] → isBlankText (asString s) = true →
      RecordOnly (.text s) (asString s)
  | bytes {bs : List UInt8} {s : List Char} : decodeUtf8 bs = .ok s → s ≠ [] →
      RecordOnly (.bytes bs) (String.ofList s)

private theorem parse_bareForm (v : Value) :
    Step.parse (bareForm w v) =
      ((Instruction.parse (.await w) v).mapError (.ofPayload (.await w))).map .known := by
  have hname : Action.named? (strip (asString w.name)) = some (.await w) := by
    cases w <;> decide
  have hkey : (Value.text w.name).display = .ok (asString w.name) := rfl
  have hentries : (bareForm w v).entries? = some [(.text w.name, v)] := rfl
  simp only [Step.parse, hentries, hkey, ok_mapError, ok_bind, hname]

private theorem bareForm_ok {v : Value} {i : Instruction} :
    Step.parse (bareForm w v) = .ok (.known i) ↔ Grammar (.await w) v i := by
  have hwait : Action.await w ≠ .wait := nofun
  rw [parse_bareForm, ← instruction_iff_grammar hwait]
  constructor
  · intro h
    obtain ⟨j, hj, hi⟩ := map_ok h
    cases hi
    exact mapError_ok hj
  · intro h
    rw [h]
    rfl

/-- What the grammar does not have is refused, unless it is too deep to be shown. -/
theorem bareForm_refused {v : Value} :
    IsRefused (bareForm w v) ↔
      (∀ i, ¬ Grammar (.await w) v i) ∧ ¬ (v.entries? = none ∧ v.TooDeep) := by
  have hwait : Action.await w ≠ .wait := nofun
  have hleaves : Leaves (Instruction.parse (.await w) v) ↔ v.entries? = none ∧ v.TooDeep := by
    rw [instruction_leaves_of_ne hwait]
    simp [TakesRecord]
  rw [← hleaves, IsRefused, parse_bareForm]
  simp only [← instruction_iff_grammar hwait]
  cases Instruction.parse (.await w) v with
  | ok i =>
    refine iff_of_false ?_ fun h => h.1 i rfl
    rintro ⟨e, he⟩
    cases he
  | error e =>
    cases e with
    | conversion c =>
      cases hc : c.isMalformed with
      | true =>
        refine iff_of_true ⟨_, congrArg Except.error (if_pos hc)⟩ ⟨by simp, ?_⟩
        rintro ⟨c', hc', hleaves⟩
        cases hc'
        rw [hc] at hleaves
        cases hleaves
      | false =>
        refine iff_of_false ?_ fun h => h.2 ⟨c, rfl, hc⟩
        rintro ⟨e, he⟩
        have hfailure : StepFailure.ofPayload (.await w) (.conversion c) = .conversion c :=
          if_neg (Bool.eq_false_iff.mp hc)
        rw [error_mapError, hfailure] at he
        cases he
    | _ =>
      refine iff_of_true ⟨_, rfl⟩ ⟨by simp, ?_⟩
      rintro ⟨c, hc, _⟩
      cases hc

/-- A value that is too deep to be shown is not refused where it stands alone. -/
theorem bareForm_tooDeep {v : Value} (hv : v.entries? = none) (h : v.TooDeep) :
    Step.parse (bareForm w v) = .error (.conversion .tooDeep) := by
  rw [parse_bareForm, Instruction.parse, hv, textPayload_tooDeep h]
  rfl

theorem bareForm_nested {n : Nat} (h : depthLimit ≤ n) :
    Step.parse (bareForm w (.nested n)) = .error (.conversion .tooDeep) := by
  have hentries : (Value.nested n).entries? = none := by cases n <;> rfl
  exact bareForm_tooDeep w hentries (Value.nested_tooDeep_iff.mpr h)

/-- What the bare form takes. -/
private theorem grammar_bare {v : Value} (hv : v.entries? = none) {i : Instruction} :
    Grammar (.await w) v i ↔
      ∃ s, BareText v s ∧ holdsSurrogate (.text s) = false ∧ i = .await w (asString s) none := by
  constructor
  · intro h
    cases h with
    | awaitText _ hs hcounted => exact ⟨_, hs, hcounted, rfl⟩
    | awaitRecord _ he _ _ _ =>
      rw [hv] at he
      cases he
  · rintro ⟨s, hs, hcounted, rfl⟩
    exact .awaitText w hs hcounted

/-- What the record takes. -/
private theorem grammar_record {v : Value} {i : Instruction} :
    Grammar (.await w) (.map [(.text "text", v)]) i ↔
      ∃ s, GuardedText v s ∧ i = .await w s none := by
  constructor
  · intro h
    cases h with
    | awaitText _ hs _ => cases hs.entries?
    | awaitRecord _ he hkeys htext htimeout =>
      cases he
      obtain ⟨hs, rfl⟩ := textAlone_iff.mp ⟨hkeys, htext, htimeout⟩
      exact ⟨_, hs, rfl⟩
  · rintro ⟨s, hs, rfl⟩
    obtain ⟨hkeys, htext, htimeout⟩ := textAlone_iff.mpr ⟨hs, rfl⟩
    exact .awaitRecord w rfl hkeys htext htimeout

end Forms

section Texts

/-- A surrogate is not blank. -/
private theorem blank_counted {s : List CodePoint} (h : isBlankText (asString s) = true) :
    holdsSurrogate (.text s) = false := by
  have hmark : isBlank '\uFFFD' = false := by decide
  suffices hs : ∃ cs, s = codePoints cs by
    obtain ⟨cs, rfl⟩ := hs
    exact holdsSurrogate_codePoints cs
  rw [isBlankText, asString, String.toList_ofList] at h
  induction s with
  | nil => exact ⟨[], rfl⟩
  | cons p s ih =>
    simp only [asCharacters, List.map_cons, List.all_cons, Bool.and_eq_true] at h
    obtain ⟨cs, rfl⟩ := ih h.2
    cases p with
    | char c => exact ⟨c :: cs, rfl⟩
    | surrogate _ =>
      rw [CodePoint.asChar, hmark] at h
      cases h.1

/-- A record takes for a text what stands bare for one, and the blanks and bytes besides. -/
private theorem guardedText_iff {v : Value} {s : String} :
    GuardedText v s ↔
      (∃ p, BareText v p ∧ holdsSurrogate (.text p) = false ∧ asString p = s) ∨
        RecordOnly v s := by
  constructor
  · rintro ⟨hreads, hne, hcounted⟩
    cases hreads with
    | number h =>
      exact .inl ⟨_, .number h, holdsSurrogate_codePoints _, asString_own s⟩
    | text p =>
      by_cases hblank : isBlankText (asString p) = true
      · refine .inr (.blank ?_ hblank)
        rintro rfl
        exact hne rfl
      · exact .inl ⟨p, .text (holdsMore_iff.mpr ((Bool.not_eq_true _).mp hblank)), hcounted, rfl⟩
    | bytes hbs =>
      refine .inr (.bytes hbs ?_)
      rintro rfl
      exact hne rfl
  · rintro (⟨p, hbare, hcounted, rfl⟩ | h)
    · cases hbare with
      | number h =>
        rw [asString_own]
        exact ⟨.number h, h.holdsMore.ne_empty, by cases h <;> rfl⟩
      | text hmore => exact ⟨.text p, hmore.ne_empty, hcounted⟩
    · cases h with
      | blank hne hblank =>
        refine ⟨.text _, ?_, blank_counted hblank⟩
        intro hempty
        rw [asString, String.ofList_eq_empty_iff, asCharacters, List.map_eq_nil_iff] at hempty
        exact hne hempty
      | bytes hbs hne => exact ⟨.bytes hbs, by simpa using hne, rfl⟩

private theorem RecordOnly.not_bareText {v : Value} {s : String} (h : RecordOnly v s)
    {p : List CodePoint} : ¬ BareText v p := by
  intro hbare
  cases h with
  | blank _ hblank =>
    cases hbare with
    | number h => cases h
    | text hmore =>
      rw [holdsMore_iff.mp hmore] at hblank
      cases hblank
  | bytes _ _ =>
    cases hbare with
    | number h => cases h

end Texts

theorem BareText.not_tooDeep {v : Value} {s : List CodePoint} (h : BareText v s) :
    ¬ v.TooDeep := by
  cases h with
  | number h => cases h <;> exact Value.not_tooDeep rfl
  | text _ => exact Value.not_tooDeep rfl

theorem RecordOnly.not_tooDeep {v : Value} {s : String} (h : RecordOnly v s) : ¬ v.TooDeep := by
  cases h <;> exact Value.not_tooDeep rfl

/-- The two forms of a step that waits on a text agree exactly if the value is neither one of the
texts of blanks or bytes, which the record takes and the bare form does not, nor too deep to be
shown; then the record is refused and the bare form fails otherwise. -/
theorem waitForms_agree_iff (w : TextWait) {v : Value} (hv : v.entries? = none) :
    (FormsAgree w v ↔ (∀ s, ¬ RecordOnly v s) ∧ ¬ v.TooDeep) ∧
      (∀ s, RecordOnly v s → IsRefused (bareForm w v) ∧ WaitsOn w s (recordForm w v)) ∧
      (v.TooDeep → Step.parse (bareForm w v) = .error (.conversion .tooDeep) ∧
        IsRefused (recordForm w v)) := by
  have hnone : (∀ s, ¬ RecordOnly v s) → (¬ ∃ p, BareText v p ∧ holdsSurrogate (.text p) = false) →
      IsRefused (recordForm w v) := by
    intro hblank hbare
    refine (bareForm_refused w).mpr ⟨fun i hi => ?_, fun h => ?_⟩
    · obtain ⟨s, hs, _⟩ := (grammar_record w).mp hi
      rcases guardedText_iff.mp hs with ⟨p, hp, hcounted, _⟩ | hs
      · exact hbare ⟨p, hp, hcounted⟩
      · exact hblank s hs
    · cases h.1
  have hblank : ∀ s, RecordOnly v s →
      IsRefused (bareForm w v) ∧ WaitsOn w s (recordForm w v) := by
    intro s hs
    constructor
    · refine (bareForm_refused w).mpr ⟨fun i hi => ?_, fun h => hs.not_tooDeep h.2⟩
      obtain ⟨p, hp, _⟩ := (grammar_bare w hv).mp hi
      exact hs.not_bareText hp
    · exact (bareForm_ok w).mpr ((grammar_record w).mpr ⟨s, guardedText_iff.mpr (.inr hs), rfl⟩)
  have hdeep : v.TooDeep → Step.parse (bareForm w v) = .error (.conversion .tooDeep) ∧
      IsRefused (recordForm w v) := by
    intro h
    refine ⟨bareForm_tooDeep w hv h, hnone (fun s hs => hs.not_tooDeep h) ?_⟩
    rintro ⟨p, hp, _⟩
    exact hp.not_tooDeep h
  refine ⟨⟨fun hagree => ⟨fun s hs => ?_, fun h => ?_⟩, ?_⟩, hblank, hdeep⟩
  · obtain ⟨⟨e, he⟩, hrecord⟩ := hblank s hs
    rcases hagree with ⟨_, e', he'⟩ | ⟨t, ht, _⟩
    · rw [WaitsOn, he'] at hrecord
      cases hrecord
    · rw [WaitsOn, he] at ht
      cases ht
  · have hbare := (hdeep h).1
    rcases hagree with ⟨⟨e, he⟩, _⟩ | ⟨t, ht, _⟩
    · rw [hbare] at he
      cases he
    · rw [WaitsOn, hbare] at ht
      cases ht
  · rintro ⟨hblank, hshown⟩
    by_cases hbare : ∃ p, BareText v p ∧ holdsSurrogate (.text p) = false
    · obtain ⟨p, hp, hcounted⟩ := hbare
      refine .inr ⟨asString p, (bareForm_ok w).mpr (.awaitText w hp hcounted), ?_⟩
      exact (bareForm_ok w).mpr ((grammar_record w).mpr
        ⟨_, guardedText_iff.mpr (.inl ⟨p, hp, hcounted, rfl⟩), rfl⟩)
    · refine .inl ⟨(bareForm_refused w).mpr ⟨fun i hi => ?_, fun h => hshown h.2⟩,
        hnone hblank hbare⟩
      obtain ⟨p, hp, hcounted, _⟩ := (grammar_bare w hv).mp hi
      exact hbare ⟨p, hp, hcounted⟩

theorem waitForms_agree_iff_number :
    (Value.int 404).entries? = none ∧ FormsAgree .assertVisible (.int 404) := by
  refine ⟨rfl, (waitForms_agree_iff .assertVisible rfl).1.mpr ⟨?_, Value.not_tooDeep rfl⟩⟩
  intro s hs
  cases hs

/-- A text of blanks is refused alone, and its record is a step. -/
theorem waitForms_differ :
    ¬ ∀ (w : TextWait) (v : Value), v.entries? = none → FormsAgree w v := by
  intro h
  rcases h .assertVisible (.text "  ") rfl with ⟨_, e, he⟩ | ⟨s, hs, _⟩
  · cases he
  · cases hs

end FeatureRun.Spec
