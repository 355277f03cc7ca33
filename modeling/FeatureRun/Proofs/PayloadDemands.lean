import FeatureRun.Proofs.Outcome
import FeatureRun.Proofs.Placeholders
import FeatureRun.Proofs.StepRefusal
import Mathlib.Logic.Basic

/-!
What variables leave of the demands that reading made of an instruction. A text that held more than
blanks is blank afterwards exactly if a variable of blanks alone comes to a text that is made of
blanks and of its placeholder. Main statement: `parse_substitute`.
-/
namespace FeatureRun.Spec
open FeatureRun.Text FeatureRun.Number FeatureRun.Data

section Demands
variable (vars : Variables)

private theorem substitute_all_iff {p : Char → Bool} (hp : p '$' = false) {s : String}
    (h : s.toList.all p = false) :
    (vars.substitute s).toList.all p = false ↔ ¬ vars.bindings.Vanishes p s.toList := by
  rw [Variables.substitute, Bindings.substitute, String.toList_ofList,
    ← Bindings.substituteList_all_iff hp vars.bindings h, Bool.not_eq_true]

def HoldsMore (s : String) : Prop := ∃ c ∈ s.toList, isBlank c = false

theorem holdsMore_iff {s : String} : HoldsMore s ↔ isBlankText s = false := by
  simp [HoldsMore, isBlankText, List.all_eq_false]

private theorem ne_empty_iff {s : String} : s ≠ "" ↔ s.toList.all (fun _ => false) = false := by
  rw [ne_eq, ← String.toList_eq_nil_iff]
  cases s.toList <;> simp

private theorem holdsMore_substitute {s : String} (h : HoldsMore s) :
    HoldsMore (vars.substitute s) ↔ ¬ vars.bindings.Vanishes isBlank s.toList := by
  rw [holdsMore_iff] at h ⊢
  exact substitute_all_iff vars (by decide) h

private theorem substitute_ne_empty {s : String} (h : s ≠ "") :
    vars.substitute s ≠ "" ↔ ¬ vars.bindings.Vanishes (fun _ => false) s.toList := by
  rw [ne_empty_iff] at h ⊢
  exact substitute_all_iff vars rfl h

namespace Instruction

/-- What reading demands of an instruction: a text has something that is not blank, one that names
an element or is waited for is not empty, a timeout is positive, and a number of milliseconds is
not below zero. -/
def MeetsDemand : Instruction → Prop
  | .text _ s | .clickText s => HoldsMore s
  | .await _ s timeout => s ≠ "" ∧ ∀ n ∈ timeout, 0 < n
  | .fill s _ | .fillField s _ | .select s _ | .clickSelector s => s ≠ ""
  | .wait x => x.ltZero = false

def LosesDemand : Instruction → Prop
  | .text _ s | .clickText s => vars.bindings.Vanishes isBlank s.toList
  | .await _ s _ | .fill s _ | .fillField s _ | .select s _ | .clickSelector s =>
    vars.bindings.Vanishes (fun _ => false) s.toList
  | .wait _ => False

private theorem meetsDemand_substitute {i : Instruction} (h : i.MeetsDemand) :
    (i.substitute vars).MeetsDemand ↔ ¬ i.LosesDemand vars := by
  cases i with
  | text _ s | clickText s => exact holdsMore_substitute vars h
  | await _ s timeout =>
    have hs := substitute_ne_empty vars h.1
    exact ⟨fun hm => hs.mp hm.1, fun hl => ⟨hs.mpr hl, h.2⟩⟩
  | fill s _ | fillField s _ | select s _ | clickSelector s => exact substitute_ne_empty vars h
  | wait x => exact ⟨fun _ hl => hl, fun _ => h⟩

/-- Variables with something in each of their values take nothing away. -/
private theorem not_losesDemand {vars : Variables} (h : ∀ v ∈ vars.bindings, HoldsMore v.2)
    (i : Instruction) : ¬ i.LosesDemand vars := by
  have hblank : ∀ v ∈ vars.bindings, v.2.toList.all isBlank = false :=
    fun v hv => holdsMore_iff.mp (h v hv)
  have hempty : ∀ v ∈ vars.bindings, v.2.toList.all (fun _ => false) = false := by
    intro v hv
    obtain ⟨c, hc, _⟩ := h v hv
    exact List.all_eq_false.mpr ⟨c, hc, Bool.false_ne_true⟩
  cases i with
  | text _ s | clickText s => exact Bindings.not_vanishes hblank _
  | await _ s _ | fill s _ | fillField s _ | select s _ | clickSelector s =>
    exact Bindings.not_vanishes hempty _
  | wait _ => exact id

end Instruction

end Demands

section Reading

theorem map_ok {ε α β : Type} {r : Except ε α} {g : α → β} {y : β} (h : r.map g = .ok y) :
    ∃ x, r = .ok x ∧ y = g x := by
  cases r with
  | ok x => exact ⟨x, rfl, (Except.ok.inj h).symm⟩
  | error e => cases h

theorem mapError_ok {ε ε' α : Type} {r : Except ε α} {wrap : ε → ε'} {x : α}
    (h : r.mapError wrap = .ok x) : r = .ok x := by
  cases r with
  | ok y => exact congrArg _ (Except.ok.inj h)
  | error e => cases h

theorem bind_ok {ε α β : Type} {r : Except ε α} {f : α → Except ε β} {y : β}
    (h : (r >>= f) = .ok y) : ∃ x, r = .ok x ∧ f x = .ok y := by
  cases r with
  | ok x => exact ⟨x, rfl, h⟩
  | error e => cases h

theorem refuse_ne_ok {α : Type} (v : Value) (error : String → PayloadError) (x : α) :
    refuse v error ≠ .ok x := by
  unfold refuse
  split <;> nofun

private theorem HoldsMore.of_mem {c : Char} {s : List Char} (h : c ∈ s) (hc : isBlank c = false) :
    HoldsMore (String.ofList s) :=
  ⟨c, by rwa [String.toList_ofList], hc⟩

private theorem decimal_holdsMore (d : Decimal) : HoldsMore d.text := by
  have hpoint : isBlank '.' = false := by decide
  have hpower : isBlank 'e' = false := by decide
  unfold Decimal.text
  dsimp only
  split
  · split
    · exact .of_mem (c := '.') (by simp) hpoint
    · split
      · exact .of_mem (c := '.') (by simp) hpoint
      · exact .of_mem (c := '.') (by simp) hpoint
  · exact .of_mem (c := 'e') (by simp) hpower

theorem real_holdsMore (x : Binary64) : HoldsMore x.text := by
  cases x with
  | nan => exact ⟨'n', by decide, by decide⟩
  | infinite negative => cases negative <;> exact ⟨'i', by decide, by decide⟩
  | finite negative m e _ =>
    have htail : HoldsMore (if m = 0 then "0.0" else (shortest m e).text) := by
      split
      · exact ⟨'.', by decide, by decide⟩
      · exact decimal_holdsMore _
    obtain ⟨c, hc, hmore⟩ := htail
    refine ⟨c, ?_, hmore⟩
    rw [Binary64.text, String.toList_append]
    exact List.mem_append_right _ hc

private theorem natural_holdsMore (n : Nat) : HoldsMore (toString n) := by
  obtain ⟨c, hc⟩ := List.exists_mem_of_ne_nil _ (Nat.toDigits_ne_nil (n := n) (b := 10))
  have hdigit := Nat.isDigit_of_mem_toDigits (by decide) (by decide) hc
  exact ⟨c, by rwa [Nat.toString_eq_repr, Nat.toList_repr],
    not_isBlank_of_isDigit (isDigit_of_isDecimal (isDecimal_of_isDigit hdigit))⟩

theorem integer_holdsMore {n : Int} {s : String} (h : integerText n = .ok s) : HoldsMore s := by
  unfold integerText at h
  split at h
  · cases h
    cases n with
    | ofNat m => exact natural_holdsMore m
    | negSucc m => exact ⟨'-', by simp [toString, Int.repr], by decide⟩
  · cases h

/-- A text that is taken holds something that is not blank. -/
theorem textPayload_holdsMore {v : Value} {s : List CodePoint} (h : textPayload v = .ok s) :
    HoldsMore (asString s) := by
  unfold textPayload at h
  split at h
  · exact absurd h (refuse_ne_ok _ _ _)
  · exact absurd h (refuse_ne_ok _ _ _)
  · obtain ⟨t, ht, hs⟩ := bind_ok h
    cases hs
    rw [asString, asCharacters_codePoints, String.ofList_toList]
    exact integer_holdsMore (mapError_ok ht)
  · cases h
    rw [asString, asCharacters_codePoints, String.ofList_toList]
    exact real_holdsMore _
  · split at h
    · exact absurd h (refuse_ne_ok _ _ _)
    · cases h
      exact holdsMore_iff.mpr ((Bool.not_eq_true _).mp ‹_›)
  · exact absurd h (refuse_ne_ok _ _ _)

theorem nonEmptyText_ne {v : Value} {s : String} (h : nonEmptyText v = .ok (.ok s)) : s ≠ "" := by
  unfold nonEmptyText at h
  split at h
  · cases h
  · obtain ⟨field, _, hs⟩ := map_ok h
    cases field with
    | error i => cases hs
    | ok t =>
      change _ = atLeastOne t at hs
      unfold atLeastOne at hs
      split at hs
      · cases hs
      · cases hs
        assumption

private theorem requiredField_ne {entries : List (Value × Value)} {name s : String}
    (h : requiredField entries name nonEmptyText = .ok (.ok s)) : s ≠ "" := by
  unfold requiredField at h
  split at h
  · exact nonEmptyText_ne h
  · cases h

private theorem readTimeout_pos {v : Value} {timeout : Option Int}
    (h : readTimeout v = .ok timeout) :
    ∀ n ∈ timeout, 0 < n := by
  unfold readTimeout at h
  split at h
  · cases h
    nofun
  · split at h
    · split at h
      · cases h
        rintro n ⟨⟩
        assumption
      · cases h
    · cases h

/-- A record is built from its fields, none of which has an issue. -/
theorem recordOf_ok {α : Type} {name : String} {issues : List Issue} {value : Option α} {x : α}
    (h : recordOf name issues value = .ok x) : value = some x := by
  unfold recordOf at h
  split at h
  · cases h
    rfl
  · cases h

theorem pair_some {α β : Type} {a : Field α} {b : Field β} {x : α} {y : β}
    (h : (a.toOption.bind fun x => b.toOption.map fun y => (x, y)) = some (x, y)) :
    a = .ok x ∧ b = .ok y := by
  cases a with
  | error e => cases h
  | ok x' =>
    cases b with
    | error e => cases h
    | ok y' =>
      cases h
      exact ⟨rfl, rfl⟩

private theorem pairPayload_ne {record first second a b : String} {entries : List (Value × Value)}
    (h : pairPayload record first second entries = .ok (a, b)) : a ≠ "" := by
  unfold pairPayload at h
  obtain ⟨fst, hfst, h⟩ := bind_ok h
  obtain ⟨snd, _, h⟩ := bind_ok h
  obtain ⟨rfl, _⟩ := pair_some (recordOf_ok h)
  exact requiredField_ne (mapError_ok hfst)

private theorem formPayload_ne {record first second : String} {v : Value} {r : String × String}
    (h : formPayload record first second v = .ok r) : r.1 ≠ "" := by
  unfold formPayload at h
  split at h
  · exact pairPayload_ne h
  · exact absurd h (refuse_ne_ok _ _ _)

private theorem selectorPayload_ne {entries : List (Value × Value)} {s : String}
    (h : selectorPayload entries = .ok s) : s ≠ "" := by
  unfold selectorPayload at h
  obtain ⟨field, hfield, h⟩ := bind_ok h
  have hs := recordOf_ok h
  cases field with
  | error i => cases hs
  | ok t =>
    cases hs
    exact requiredField_ne (mapError_ok hfield)

private theorem awaitRecord_demand {entries : List (Value × Value)} {r : String × Option Int}
    (h : awaitRecord entries = .ok r) : r.1 ≠ "" ∧ ∀ n ∈ r.2, 0 < n := by
  unfold awaitRecord at h
  obtain ⟨field, hfield, h⟩ := bind_ok h
  obtain ⟨rfl, hb⟩ := pair_some (recordOf_ok h)
  refine ⟨requiredField_ne (mapError_ok hfield), ?_⟩
  split at hb
  · exact readTimeout_pos hb
  · rw [← Except.ok.inj hb]
    nofun

theorem ofRatio_notBelow (num den : Nat) : (Binary64.ofRatio false num den).ltZero = false := by
  have hpack (m : Nat) (e : Int) : (Binary64.pack false m e).ltZero = false := by
    unfold Binary64.pack
    split <;> rfl
  unfold Binary64.ofRatio
  dsimp only
  split
  · rfl
  · split <;> exact hpack _ _

private theorem realOfInt_notBelow {n : Int} {x : Binary64} (hn : ¬ n < 0)
    (h : realOfInt n = .ok x) :
    x.ltZero = false := by
  have hx : x = Binary64.ofInt n := by
    unfold realOfInt at h
    split at h
    · cases h
    · exact (Except.ok.inj h).symm
  rw [hx, Binary64.ofInt, Binary64.ofScaled, decide_eq_false hn]
  exact ofRatio_notBelow _ _

private theorem waitPayload_demand {v : Value} {x : Binary64} (h : waitPayload v = .ok x) :
    x.ltZero = false := by
  unfold waitPayload at h
  obtain ⟨number, _, h⟩ := bind_ok h
  unfold milliseconds at h
  split at h
  · split at h
    · exact absurd h (refuse_ne_ok _ _ _)
    · exact realOfInt_notBelow ‹_› (mapError_ok h)
  · split at h
    · exact absurd h (refuse_ne_ok _ _ _)
    · cases h
      exact (Bool.not_eq_true _).mp ‹_›
  · exact absurd h (refuse_ne_ok _ _ _)

private theorem parse_meetsDemand {a : Action} {v : Value} {i : Instruction}
    (h : Instruction.parse a v = .ok i) : i.MeetsDemand := by
  cases a with
  | text a =>
    obtain ⟨s, hs, rfl⟩ := map_ok h
    exact textPayload_holdsMore hs
  | await w =>
    unfold Instruction.parse at h
    dsimp only at h
    split at h
    · obtain ⟨r, hr, rfl⟩ := map_ok h
      exact awaitRecord_demand hr
    · obtain ⟨s, _, h⟩ := bind_ok h
      obtain ⟨r, hr, h⟩ := bind_ok h
      cases h
      exact awaitRecord_demand hr
  | form f =>
    cases f <;>
    · obtain ⟨r, hr, rfl⟩ := map_ok h
      exact formPayload_ne hr
  | click =>
    unfold Instruction.parse at h
    dsimp only at h
    split at h
    · obtain ⟨s, hs, rfl⟩ := map_ok h
      exact selectorPayload_ne hs
    · obtain ⟨s, hs, rfl⟩ := map_ok h
      exact textPayload_holdsMore hs
  | wait =>
    obtain ⟨x, hx, rfl⟩ := map_ok h
    exact waitPayload_demand hx

/-- A step that is read meets what reading demands. -/
theorem step_meetsDemand {raw : Value} {i : Instruction} (h : Step.parse raw = .ok (.known i)) :
    i.MeetsDemand := by
  unfold Step.parse at h
  split at h
  · split at h <;> cases h
  · obtain ⟨key, _, h⟩ := bind_ok h
    dsimp only at h
    split at h
    · cases h
    · obtain ⟨j, hj, hi⟩ := map_ok h
      cases hi
      exact parse_meetsDemand (mapError_ok hj)
  · split at h <;> cases h

end Reading

end FeatureRun.Spec

namespace FeatureRun.Run
open FeatureRun.Text FeatureRun.Data FeatureRun.Files FeatureRun.Spec FeatureRun.Browser

theorem outcome_assertUrl (ctx : Context) (s url : String) {w w' : World}
    (h : outcome currentUrl w = (.ok url, w')) :
    outcome (performText ctx .assertUrl s) w =
      (if contains s.toList url.toList then .ok () else .error (.assertion (.url url s)), w') := by
  rw [performText, outcome_bind_ok h]
  split <;> rfl

/-- The check of the address fails on no page whose address can be read. -/
def NeverFails (check : Run Unit) : Prop :=
  ∀ w url, (outcome currentUrl w).1 = .ok url → (outcome check w).1 = .ok ()

/-- A check of the address that never fails looks for the empty text. -/
theorem assertUrl_neverFails_iff (ctx : Context) (s : String) :
    NeverFails (performText ctx .assertUrl s) ↔ s = "" := by
  constructor
  · intro h
    let blank : World := { page := { url := "" }, files := ⟨[], []⟩, picks := ⟨[], 0⟩ }
    have hurl : outcome currentUrl blank = (.ok "", blank) := rfl
    have hpass := h blank "" (congrArg Prod.fst hurl)
    rw [outcome_assertUrl ctx s "" hurl] at hpass
    by_cases hs : contains s.toList "".toList = true
    · have hnil : s.toList = [] := List.isEmpty_iff.mp hs
      exact String.toList_eq_nil_iff.mp hnil
    · rw [if_neg hs] at hpass
      cases hpass
  · rintro rfl w url hurl
    rw [outcome_assertUrl ctx "" url (Prod.ext hurl rfl)]
    have hcontains : contains "".toList url.toList = true := by cases url.toList <;> rfl
    rw [if_pos hcontains]

/-- A step that is read meets what reading demands of it, and what is performed in its place meets
this exactly if its variables do not take it away, as none do that have something in each value. A
check of the address that is read fails on some page; what is performed in its place fails on none
exactly if the variables leave nothing of its text. -/
theorem parse_substitute {raw : Value} {i : Instruction} (h : Step.parse raw = .ok (.known i))
    (ctx : Context) :
    perform ctx (.known i) = performInstruction ctx (i.substitute ctx.vars) ∧ i.MeetsDemand ∧
      ((i.substitute ctx.vars).MeetsDemand ↔ ¬ i.LosesDemand ctx.vars) ∧
      ((∀ v ∈ ctx.vars.bindings, HoldsMore v.2) → (i.substitute ctx.vars).MeetsDemand) ∧
      ∀ s, i = .text .assertUrl s → ¬ NeverFails (performText ctx .assertUrl s) ∧
        (NeverFails (perform ctx (.known i)) ↔
          ctx.vars.bindings.Vanishes (fun _ => false) s.toList) := by
  have hdemand := step_meetsDemand h
  have hiff := Instruction.meetsDemand_substitute ctx.vars hdemand
  refine ⟨rfl, hdemand, hiff, fun hvars => hiff.mpr (Instruction.not_losesDemand hvars i), ?_⟩
  rintro s rfl
  have hs : s ≠ "" := by
    rintro rfl
    obtain ⟨c, hc, _⟩ := hdemand
    cases hc
  constructor
  · rwa [assertUrl_neverFails_iff]
  · have hperform : perform ctx (.known (.text .assertUrl s)) =
        performText ctx .assertUrl (ctx.vars.substitute s) := rfl
    rw [hperform, assertUrl_neverFails_iff, ← not_iff_not, ← substitute_ne_empty ctx.vars hs]

def oneVariable (name value : String) : Context where
  screenshots := Path.ofString "shots"
  vars := .single name value

theorem parse_substitute_slug :
    Step.parse (.map [(.text "assert_url", .text "/$\x7bSLUG\x7d")]) =
        .ok (.known (.text .assertUrl "/$\x7bSLUG\x7d")) ∧
      (Instruction.text .assertUrl "/$\x7bSLUG\x7d").substitute (.single "SLUG" "cart") =
        .text .assertUrl "/cart" ∧
      (Instruction.text .assertUrl "/cart").MeetsDemand ∧
      ¬ NeverFails (perform (oneVariable "SLUG" "cart")
        (.known (.text .assertUrl "/$\x7bSLUG\x7d"))) := by
  have hread : Step.parse (.map [(.text "assert_url", .text "/$\x7bSLUG\x7d")]) =
      .ok (.known (.text .assertUrl "/$\x7bSLUG\x7d")) := rfl
  have hsubst : (Instruction.text .assertUrl "/$\x7bSLUG\x7d").substitute (.single "SLUG" "cart") =
      .text .assertUrl "/cart" := rfl
  have hvalue : HoldsMore "cart" := ⟨'c', by decide, by decide⟩
  obtain ⟨_, _, _, hmeets, hurl⟩ := parse_substitute hread (oneVariable "SLUG" "cart")
  refine ⟨hread, hsubst, ?_, ?_⟩
  · have := hmeets fun v hv => by cases List.mem_singleton.mp hv; exact hvalue
    exact hsubst ▸ this
  · rw [(hurl _ rfl).2]
    refine Bindings.not_vanishes ?_ _
    intro v hv
    cases List.mem_singleton.mp hv
    rfl

/-- With an empty variable a check of the address that is read becomes one that never fails. -/
theorem assertUrl_emptied :
    Step.parse (.map [(.text "assert_url", .text "$\x7bX\x7d")]) =
        .ok (.known (.text .assertUrl "$\x7bX\x7d")) ∧
      (Instruction.text .assertUrl "$\x7bX\x7d").substitute (.single "X" "") = .text .assertUrl "" ∧
      ¬ (Instruction.text .assertUrl "").MeetsDemand ∧
      NeverFails (perform (oneVariable "X" "") (.known (.text .assertUrl "$\x7bX\x7d"))) := by
  refine ⟨rfl, rfl, ?_, ?_⟩
  · rintro ⟨c, hc, _⟩
    cases hc
  · have hperform : perform (oneVariable "X" "") (.known (.text .assertUrl "$\x7bX\x7d")) =
        performText (oneVariable "X" "") .assertUrl "" := rfl
    rw [hperform]
    exact (assertUrl_neverFails_iff _ _).mpr rfl

end FeatureRun.Run
