import FeatureRun.Proofs.PayloadDemands

/-!
The grammar of the steps: which values an action takes, and what for. It is stated without the
readers; a value is read as a step of an action exactly if the grammar has it. A number of
milliseconds has no grammar of its own here. Main statement: `parse_iff_grammar`.
-/
namespace FeatureRun.Spec
open FeatureRun.Text FeatureRun.Number FeatureRun.Data
open scoped FeatureRun.CoreInstances

section Grammar

/-- A number with its text. A truth value is none, and an integer beyond the digit limit has no
text. -/
inductive NumberText : Value → String → Prop
  | int {n : Int} : isLong n = false → NumberText (.int n) (toString n)
  | real (x : Binary64) : NumberText (.real x) x.text

/-- What stands for a text outside of a record: a number, or a text that is not blank, as it is. -/
inductive BareText : Value → List CodePoint → Prop
  | number {v : Value} {s : String} : NumberText v s → BareText v s
  | text {s : List CodePoint} : HoldsMore (asString s) → BareText (.text s) s

/-- What stands for a text in a field: a text, a number, or bytes that are UTF-8. -/
inductive FieldText : Value → String → Prop
  | number {v : Value} {s : String} : NumberText v s → FieldText v s
  | text (s : List CodePoint) : FieldText (.text s) (asString s)
  | bytes {bs : List UInt8} {s : List Char} : decodeUtf8 bs = .ok s →
      FieldText (.bytes bs) (String.ofList s)

/-- What stands for a text in a field that must not be empty. A surrogate cannot be counted. -/
structure GuardedText (v : Value) (s : String) : Prop where
  reads : FieldText v s
  nonempty : s ≠ ""
  counted : holdsSurrogate v = false

def KeysAmong (declared : List String) (entries : List (Value × Value)) : Prop :=
  ∀ e ∈ entries, ∃ name ∈ declared, e.1 = .text name

def HasField (entries : List (Value × Value)) (name : String) (Reads : Value → String → Prop)
    (s : String) : Prop :=
  ∃ v, Value.field? name entries = some v ∧ Reads v s

inductive HasTimeout (entries : List (Value × Value)) : Option Int → Prop
  | absent : Value.field? "timeout" entries = none → HasTimeout entries none
  | nothing : Value.field? "timeout" entries = some .null → HasTimeout entries none
  | positive {v : Value} {n : Int} : Value.field? "timeout" entries = some v → readInt v = .ok n →
      0 < n → HasTimeout entries (some n)

def IsPair (first second : String) (v : Value) (a b : String) : Prop :=
  ∃ entries, v.entries? = some entries ∧ KeysAmong [first, second] entries ∧
    HasField entries first GuardedText a ∧ HasField entries second FieldText b

/-- The values that an action takes, each with the instruction it stands for. -/
inductive Grammar : Action → Value → Instruction → Prop
  | text (a : TextAction) {v : Value} {s : List CodePoint} :
      BareText v s → Grammar (.text a) v (.text a (asString s))
  | awaitText (w : TextWait) {v : Value} {s : List CodePoint} :
      BareText v s → holdsSurrogate (.text s) = false →
      Grammar (.await w) v (.await w (asString s) none)
  | awaitRecord (w : TextWait) {v : Value} {entries : List (Value × Value)} {s : String}
      {timeout : Option Int} :
      v.entries? = some entries → KeysAmong ["text", "timeout"] entries →
      HasField entries "text" GuardedText s → HasTimeout entries timeout →
      Grammar (.await w) v (.await w s timeout)
  | fill {v : Value} {a b : String} :
      IsPair "selector" "value" v a b → Grammar (.form .fill) v (.fill a b)
  | fillField {v : Value} {a b : String} :
      IsPair "label" "value" v a b → Grammar (.form .fillField) v (.fillField a b)
  | select {v : Value} {a b : String} :
      IsPair "label" "option" v a b → Grammar (.form .select) v (.select a b)
  | clickText {v : Value} {s : List CodePoint} :
      BareText v s → Grammar .click v (.clickText (asString s))
  | clickSelector {v : Value} {entries : List (Value × Value)} {s : String} :
      v.entries? = some entries → KeysAmong ["selector"] entries →
      HasField entries "selector" GuardedText s → Grammar .click v (.clickSelector s)

theorem BareText.entries? {v : Value} {s : List CodePoint} (h : BareText v s) :
    v.entries? = none := by
  cases h with
  | number h => cases h <;> rfl
  | text _ => rfl

end Grammar

section Texts

theorem HoldsMore.ne_empty {s : String} (h : HoldsMore s) : s ≠ "" := by
  rintro rfl
  obtain ⟨c, hc, _⟩ := h
  cases hc

theorem asString_own (s : String) : asString s = s := by
  rw [asString, asCharacters_codePoints, String.ofList_toList]

theorem holdsSurrogate_codePoints (s : List Char) :
    holdsSurrogate (.text (codePoints s)) = false := by
  rw [holdsSurrogate, characters?_codePoints, Option.isNone_some]

private theorem integerText_iff {n : Int} {s : String} :
    integerText n = .ok s ↔ NumberText (.int n) s := by
  have hn := integerText_unless n
  constructor
  · intro h
    rw [h] at hn
    have hlong : isLong n = false := by
      generalize isLong n = long at hn
      cases hn
      rfl
    unfold integerText at h
    split at h
    · cases h
      exact .int hlong
    · cases h
  · rintro (hlong | _)
    rw [hlong] at hn
    obtain ⟨t, ht⟩ := hn.exists_there
    rw [ht]
    unfold integerText at ht
    split at ht
    · exact ht.symm
    · cases ht

theorem NumberText.holdsMore {v : Value} {s : String} (h : NumberText v s) : HoldsMore s := by
  cases h with
  | int hlong => exact integer_holdsMore (integerText_iff.mpr (.int hlong))
  | real x => exact real_holdsMore x

private theorem textPayload_iff {v : Value} {s : List CodePoint} :
    textPayload v = .ok s ↔ BareText v s := by
  constructor
  · intro h
    have hmore := textPayload_holdsMore h
    unfold textPayload at h
    split at h
    · exact absurd h (refuse_ne_ok _ _ _)
    · exact absurd h (refuse_ne_ok _ _ _)
    · obtain ⟨t, ht, hs⟩ := bind_ok h
      cases hs
      exact .number (integerText_iff.mp (mapError_ok ht))
    · cases h
      exact .number (.real _)
    · split at h
      · exact absurd h (refuse_ne_ok _ _ _)
      · cases h
        exact .text hmore
    · exact absurd h (refuse_ne_ok _ _ _)
  · intro h
    cases h with
    | number h =>
      cases h with
      | int hlong => simp only [textPayload, integerText_iff.mpr (.int hlong), ok_mapError, ok_bind]
      | real x => rfl
    | text hmore =>
      simp only [textPayload, holdsMore_iff.mp hmore, Bool.false_eq_true, if_false]

private theorem readText_iff {v : Value} {s : String} :
    readText v = .ok (.ok s) ↔ FieldText v s := by
  constructor
  · intro h
    unfold readText at h
    split at h
    · cases h
      exact .text _
    · obtain ⟨t, ht, hs⟩ := map_ok h
      cases hs
      exact .number (integerText_iff.mp ht)
    · cases h
      exact .number (.real _)
    · split at h
      · cases h
        exact .bytes ‹_›
      · cases h
    · cases h
  · intro h
    cases h with
    | number h =>
      cases h with
      | int hlong => simp only [readText, integerText_iff.mpr (.int hlong), Except.map]
      | real x => rfl
    | text s => rfl
    | bytes hs => simp only [readText, hs]

private theorem nonEmptyText_iff {v : Value} {s : String} :
    nonEmptyText v = .ok (.ok s) ↔ GuardedText v s := by
  constructor
  · intro h
    have hne := nonEmptyText_ne h
    unfold nonEmptyText at h
    split at h
    · cases h
    · rename_i hs
      obtain ⟨field, hfield, hs'⟩ := map_ok h
      refine ⟨?_, hne, (Bool.not_eq_true _).mp hs⟩
      cases field with
      | error i => cases hs'
      | ok t =>
        change _ = atLeastOne t at hs'
        unfold atLeastOne at hs'
        split at hs'
        · cases hs'
        · cases hs'
          exact readText_iff.mp hfield
  · rintro ⟨hreads, hne, hs⟩
    simp only [nonEmptyText, hs, readText_iff.mpr hreads, Except.map, Bool.false_eq_true, if_false]
    exact congrArg Except.ok (if_neg hne)

end Texts

section Records

private theorem characters?_some {s : List CodePoint} {cs : List Char}
    (h : characters? s = some cs) :
    s = codePoints cs := by
  induction s generalizing cs with
  | nil =>
    cases h
    rfl
  | cons p s ih =>
    cases p with
    | surrogate place => cases h
    | char c =>
      rw [characters?, List.mapM_cons] at h
      change (characters? s).bind (fun ds => some (c :: ds)) = some cs at h
      obtain ⟨ds, hds, hcs⟩ := Option.bind_eq_some_iff.mp h
      cases hcs
      rw [ih hds]
      rfl

/-- A key that has no surrogate is declared if its characters are. -/
private theorem key_declared_iff {declared : List String} {key : Value} :
    (holdsSurrogate key = false ∧ ∃ s, key = .text s ∧ asString s ∈ declared) ↔
      ∃ name ∈ declared, key = .text name := by
  constructor
  · rintro ⟨hs, s, rfl, hmem⟩
    cases hc : characters? s with
    | none => simp only [holdsSurrogate, hc, Option.isNone_none, reduceCtorEq] at hs
    | some cs =>
      refine ⟨asString s, hmem, ?_⟩
      rw [characters?_some hc, asString, asCharacters_codePoints, String.toList_ofList]
  · rintro ⟨name, hmem, rfl⟩
    exact ⟨holdsSurrogate_codePoints _, _, rfl, (asString_own name).symm ▸ hmem⟩

private theorem undeclaredIssues_nil {declared : List String} {entries : List (Value × Value)} :
    undeclaredIssues declared entries = [] ↔
      ∀ e ∈ entries, ∃ s, e.1 = .text s ∧ asString s ∈ declared := by
  rw [undeclaredIssues, List.filterMap_eq_nil_iff]
  refine forall₂_congr fun e _ => ?_
  split
  · rename_i s hs
    simp [hs]
  · rename_i hs
    simp only [reduceCtorEq, false_iff]
    rintro ⟨s, hkey, _⟩
    exact hs s hkey

/-- A record has no issues if its declared fields have none and all its keys are declared. -/
private theorem recordIssues_nil {declared : List String} {entries : List (Value × Value)}
    {found : List Issue} :
    recordIssues declared entries found = [] ↔ found = [] ∧ KeysAmong declared entries := by
  have hkeys : KeysAmong declared entries ↔
      (∀ e ∈ entries, holdsSurrogate e.1 = false) ∧ undeclaredIssues declared entries = [] := by
    rw [undeclaredIssues_nil, ← forall₂_and]
    exact forall₂_congr fun e _ => key_declared_iff.symm
  rw [hkeys, recordIssues]
  split
  · rename_i hany
    obtain ⟨e, he, hs⟩ := List.any_eq_true.mp hany
    refine iff_of_false nofun ?_
    rintro ⟨_, hnone, _⟩
    rw [hnone e he] at hs
    cases hs
  · rename_i hany
    have hnone : ∀ e ∈ entries, holdsSurrogate e.1 = false := by
      simpa using hany
    rw [List.append_eq_nil_iff, and_iff_right hnone]

private theorem recordOf_iff {α : Type} {name : String} {issues : List Issue} {value : Option α}
    {x : α} :
    recordOf name issues value = .ok x ↔ issues = [] ∧ value = some x := by
  constructor
  · intro h
    refine ⟨?_, recordOf_ok h⟩
    unfold recordOf at h
    split at h
    · rfl
    · cases h
  · rintro ⟨rfl, rfl⟩
    rfl

private theorem requiredField_iff {entries : List (Value × Value)} {name s : String}
    {read : Value → Except ConversionError (Field String)} {Reads : Value → String → Prop}
    (hr : ∀ {v s}, read v = .ok (.ok s) ↔ Reads v s) :
    requiredField entries name read = .ok (.ok s) ↔ HasField entries name Reads s := by
  unfold requiredField
  constructor
  · intro h
    split at h
    · exact ⟨_, ‹_›, hr.mp h⟩
    · cases h
  · rintro ⟨v, hv, hs⟩
    rw [hv]
    exact hr.mpr hs

private theorem pairPayload_iff {record first second a b : String}
    {entries : List (Value × Value)} :
    pairPayload record first second entries = .ok (a, b) ↔ KeysAmong [first, second] entries ∧
      HasField entries first GuardedText a ∧ HasField entries second FieldText b := by
  rw [← requiredField_iff nonEmptyText_iff, ← requiredField_iff readText_iff]
  unfold pairPayload
  constructor
  · intro h
    obtain ⟨fst, hfst, h⟩ := bind_ok h
    obtain ⟨snd, hsnd, h⟩ := bind_ok h
    obtain ⟨hissues, hvalue⟩ := recordOf_iff.mp h
    obtain ⟨rfl, rfl⟩ := pair_some hvalue
    exact ⟨(recordIssues_nil.mp hissues).2, mapError_ok hfst, mapError_ok hsnd⟩
  · rintro ⟨hkeys, hfst, hsnd⟩
    rw [hfst, hsnd, ok_mapError, ok_mapError, ok_bind, ok_bind]
    exact recordOf_iff.mpr ⟨recordIssues_nil.mpr ⟨rfl, hkeys⟩, rfl⟩

private theorem formPayload_iff {record first second a b : String} {v : Value} :
    formPayload record first second v = .ok (a, b) ↔ IsPair first second v a b := by
  unfold formPayload
  constructor
  · intro h
    split at h
    · exact ⟨_, ‹_›, pairPayload_iff.mp h⟩
    · exact absurd h (refuse_ne_ok _ _ _)
  · rintro ⟨entries, he, hpair⟩
    rw [he]
    exact pairPayload_iff.mpr hpair

private theorem selectorPayload_iff {entries : List (Value × Value)} {s : String} :
    selectorPayload entries = .ok s ↔
      KeysAmong ["selector"] entries ∧ HasField entries "selector" GuardedText s := by
  rw [← requiredField_iff nonEmptyText_iff]
  unfold selectorPayload
  constructor
  · intro h
    obtain ⟨field, hfield, h⟩ := bind_ok h
    obtain ⟨hissues, hvalue⟩ := recordOf_iff.mp h
    cases field with
    | error i => cases hvalue
    | ok t =>
      cases hvalue
      exact ⟨(recordIssues_nil.mp hissues).2, mapError_ok hfield⟩
  · rintro ⟨hkeys, hfield⟩
    rw [hfield, ok_mapError, ok_bind]
    exact recordOf_iff.mpr ⟨recordIssues_nil.mpr ⟨rfl, hkeys⟩, rfl⟩

def timeoutField (entries : List (Value × Value)) : Field (Option Int) :=
  match Value.field? "timeout" entries with
  | some v => readTimeout v
  | none => .ok none

private theorem timeoutField_iff {entries : List (Value × Value)} {timeout : Option Int} :
    timeoutField entries = .ok timeout ↔ HasTimeout entries timeout := by
  unfold timeoutField
  constructor
  · intro h
    split at h
    · rename_i v hv
      unfold readTimeout at h
      split at h
      · cases h
        exact .nothing hv
      · split at h
        · split at h
          · cases h
            exact .positive hv ‹_› ‹_›
          · cases h
        · cases h
    · cases h
      exact .absent ‹_›
  · intro h
    cases h with
    | absent hv => rw [hv]
    | nothing hv =>
      rw [hv]
      rfl
    | @positive v n hv hn hpos =>
      rw [hv]
      cases v with
      | null => cases hn
      | _ => simp only [readTimeout, hn, hpos, if_true]

private theorem awaitRecord_iff {entries : List (Value × Value)} {s : String}
    {timeout : Option Int} :
    awaitRecord entries = .ok (s, timeout) ↔ KeysAmong ["text", "timeout"] entries ∧
      HasField entries "text" GuardedText s ∧ HasTimeout entries timeout := by
  have hrecord : awaitRecord entries = (do
      let a ← (requiredField entries "text" nonEmptyText).mapError .conversion
      let b := timeoutField entries
      recordOf "TextWait"
        (recordIssues ["text", "timeout"] entries (issueOf "text" a ++ issueOf "timeout" b))
        (a.toOption.bind fun x => b.toOption.map fun y => (x, y))) := rfl
  rw [← requiredField_iff nonEmptyText_iff, ← timeoutField_iff, hrecord]
  constructor
  · intro h
    obtain ⟨field, hfield, h⟩ := bind_ok h
    obtain ⟨hissues, hvalue⟩ := recordOf_iff.mp h
    obtain ⟨rfl, htimeout⟩ := pair_some hvalue
    exact ⟨(recordIssues_nil.mp hissues).2, mapError_ok hfield, htimeout⟩
  · rintro ⟨hkeys, hfield, htimeout⟩
    rw [hfield, htimeout, ok_mapError, ok_bind]
    exact recordOf_iff.mpr ⟨recordIssues_nil.mpr ⟨rfl, hkeys⟩, rfl⟩

end Records

section Steps

/-- The record of a text alone says so much, and has no timeout. -/
theorem textAlone_iff {v : Value} {s : String} {timeout : Option Int} :
    KeysAmong ["text", "timeout"] [(.text "text", v)] ∧
      HasField [(.text "text", v)] "text" GuardedText s ∧
      HasTimeout [(.text "text", v)] timeout ↔ GuardedText v s ∧ timeout = none := by
  have hfield : Value.field? "text" [(.text "text", v)] = some v := rfl
  have hnone : Value.field? "timeout" [(.text "text", v)] = none := rfl
  constructor
  · rintro ⟨_, ⟨u, hu, hs⟩, htimeout⟩
    rw [hfield] at hu
    cases hu
    cases htimeout with
    | absent _ => exact ⟨hs, rfl⟩
    | nothing h => rw [hnone] at h; cases h
    | positive h _ _ => rw [hnone] at h; cases h
  · rintro ⟨hs, rfl⟩
    refine ⟨fun e he => ?_, ⟨v, hfield, hs⟩, .absent hnone⟩
    rw [List.mem_singleton.mp he]
    exact ⟨"text", List.mem_cons_self, rfl⟩

/-- The record of a bare text alone has that text, if it has no surrogate. -/
private theorem awaitRecord_bare {s : List CodePoint} (hmore : HoldsMore (asString s))
    {r : String × Option Int} :
    awaitRecord [(.text "text", .text s)] = .ok r ↔
      holdsSurrogate (.text s) = false ∧ r = (asString s, none) := by
  obtain ⟨t, timeout⟩ := r
  rw [awaitRecord_iff, textAlone_iff, Prod.mk.injEq]
  constructor
  · rintro ⟨⟨hreads, _, hs⟩, rfl⟩
    cases hreads with
    | number h => cases h
    | text _ => exact ⟨hs, rfl, rfl⟩
  · rintro ⟨hs, rfl, rfl⟩
    exact ⟨⟨.text s, hmore.ne_empty, hs⟩, rfl⟩

theorem instruction_iff_grammar {a : Action} (ha : a ≠ .wait) {v : Value} {i : Instruction} :
    Instruction.parse a v = .ok i ↔ Grammar a v i := by
  constructor
  · intro h
    cases a with
    | text a =>
      obtain ⟨s, hs, rfl⟩ := map_ok h
      exact .text a (textPayload_iff.mp hs)
    | await w =>
      unfold Instruction.parse at h
      dsimp only at h
      split at h
      · obtain ⟨r, hr, rfl⟩ := map_ok h
        obtain ⟨hkeys, htext, htimeout⟩ := awaitRecord_iff.mp hr
        exact .awaitRecord w ‹_› hkeys htext htimeout
      · obtain ⟨s, hs, h⟩ := bind_ok h
        obtain ⟨r, hr, h⟩ := bind_ok h
        obtain ⟨hcounted, rfl⟩ := (awaitRecord_bare (textPayload_holdsMore hs)).mp hr
        cases h
        exact .awaitText w (textPayload_iff.mp hs) hcounted
    | form f =>
      cases f with
      | fill =>
        obtain ⟨r, hr, rfl⟩ := map_ok h
        exact .fill (formPayload_iff.mp hr)
      | fillField =>
        obtain ⟨r, hr, rfl⟩ := map_ok h
        exact .fillField (formPayload_iff.mp hr)
      | select =>
        obtain ⟨r, hr, rfl⟩ := map_ok h
        exact .select (formPayload_iff.mp hr)
    | click =>
      unfold Instruction.parse at h
      dsimp only at h
      split at h
      · obtain ⟨s, hs, rfl⟩ := map_ok h
        obtain ⟨hkeys, hfield⟩ := selectorPayload_iff.mp hs
        exact .clickSelector ‹_› hkeys hfield
      · obtain ⟨s, hs, rfl⟩ := map_ok h
        exact .clickText (textPayload_iff.mp hs)
    | wait => exact absurd rfl ha
  · intro h
    cases h with
    | text a hs => simp only [Instruction.parse, textPayload_iff.mpr hs, Except.map]
    | awaitText w hs hcounted =>
      have hp := textPayload_iff.mpr hs
      have hr := (awaitRecord_bare (textPayload_holdsMore hp)).mpr ⟨hcounted, rfl⟩
      simp only [Instruction.parse, hs.entries?, hp, hr, ok_bind]
    | awaitRecord w he hkeys htext htimeout =>
      simp only [Instruction.parse, he, awaitRecord_iff.mpr ⟨hkeys, htext, htimeout⟩, Except.map]
    | fill hpair => simp only [Instruction.parse, formPayload_iff.mpr hpair, Except.map]
    | fillField hpair => simp only [Instruction.parse, formPayload_iff.mpr hpair, Except.map]
    | select hpair => simp only [Instruction.parse, formPayload_iff.mpr hpair, Except.map]
    | clickText hs =>
      simp only [Instruction.parse, hs.entries?, textPayload_iff.mpr hs, Except.map]
    | clickSelector he hkeys hfield =>
      simp only [Instruction.parse, he, selectorPayload_iff.mpr ⟨hkeys, hfield⟩, Except.map]

/-- Reading keeps the action. -/
theorem instruction_action {a : Action} {v : Value} {i : Instruction}
    (h : Instruction.parse a v = .ok i) : i.action = a := by
  by_cases ha : a = .wait
  · subst ha
    obtain ⟨x, _, rfl⟩ := map_ok h
    rfl
  · cases (instruction_iff_grammar ha).mp h <;> rfl

/-- A step is a mapping of one key with a text. It is that of a known action if the key names one,
and is kept as it is written if not. -/
theorem step_ok_iff {raw : Value} {step : Step} :
    Step.parse raw = .ok step ↔ ∃ key value name, raw.entries? = some [(key, value)] ∧
      key.display = .ok name ∧
      (Action.named? (strip name) = none ∧ step = .unknown (strip name) value ∨
        ∃ a i, Action.named? (strip name) = some a ∧ Instruction.parse a value = .ok i ∧
          step = .known i) := by
  constructor
  · intro h
    unfold Step.parse at h
    split at h
    · split at h <;> cases h
    · rename_i key value he
      obtain ⟨name, hname, h⟩ := bind_ok h
      refine ⟨key, value, name, he, mapError_ok hname, ?_⟩
      dsimp only at h
      split at h
      · cases h
        exact .inl ⟨‹_›, rfl⟩
      · obtain ⟨i, hi, rfl⟩ := map_ok h
        exact .inr ⟨_, i, ‹_›, mapError_ok hi, rfl⟩
    · split at h <;> cases h
  · rintro ⟨key, value, name, he, hname, ⟨ha, rfl⟩ | ⟨a, i, ha, hi, rfl⟩⟩
    · simp only [Step.parse, he, hname, ok_mapError, ok_bind, ha]
    · simp only [Step.parse, he, hname, ok_mapError, ok_bind, ha, hi, Except.map]

end Steps

end FeatureRun.Spec
