import FeatureRun.Proofs.ValueTexts
import FeatureRun.Spec.Trace
import FeatureRun.Spec.Variables

/-!
The values that can be written on one line of JSON, and the lines of steps. Whatever the shape of a
value, only four things in it stand against that: an integer beyond the digit limit, a key that is
no plain value, a container inside itself, and too many values one inside the other. Of what a known
action takes, only a timeout can be such an integer.
-/
namespace FeatureRun.Data
open FeatureRun.Text FeatureRun.Number

/-- One part after the other is there exactly if the first is and so is the second. -/
private theorem bind_ok_iff {ε α β : Type} {r : Except ε α} {f : α → Except ε β} {p : Prop}
    (hf : ∀ x, (∃ y, f x = .ok y) ↔ p) : (∃ y, (r >>= f) = .ok y) ↔ (∃ x, r = .ok x) ∧ p := by
  cases r with
  | ok x => exact (hf x).trans (and_iff_right ⟨x, rfl⟩).symm
  | error e => exact iff_of_false nofun fun h => nomatch h.1

theorem mapError_eq_ok_iff {ε ε' α : Type} {r : Except ε α} {wrap : ε → ε'} {x : α} :
    r.mapError wrap = .ok x ↔ r = .ok x := by
  cases r with
  | ok y => exact ⟨fun h => congrArg _ (Except.ok.inj h), fun h => congrArg _ (Except.ok.inj h)⟩
  | error e => exact iff_of_false nofun nofun

private theorem mapError_ok_iff {ε ε' α : Type} {r : Except ε α} {wrap : ε → ε'} :
    (∃ x, r.mapError wrap = .ok x) ↔ ∃ x, r = .ok x :=
  exists_congr fun _ => mapError_eq_ok_iff

private theorem map_ok_iff {ε α β : Type} {r : Except ε α} {g : α → β} :
    (∃ y, r.map g = .ok y) ↔ ∃ x, r = .ok x := by
  cases r with
  | ok x => exact iff_of_true ⟨g x, rfl⟩ ⟨x, rfl⟩
  | error e => exact iff_of_false nofun nofun

namespace Value

inductive PlainKey : Value → Prop
  | text (s : List CodePoint) : PlainKey (.text s)
  | real (x : Binary64) : PlainKey (.real x)
  | bool (b : Bool) : PlainKey (.bool b)
  | null : PlainKey .null
  | int {n : Int} : isLong n = false → PlainKey (.int n)

/-- The values that can be written inside the containers of the labels, with no more than `room`
values other than plain ones inside each other. -/
inductive Writable : List Nat → Nat → Value → Prop
  | null {opened : List Nat} {room : Nat} : Writable opened room .null
  | bool {opened : List Nat} {room : Nat} (b : Bool) : Writable opened room (.bool b)
  | int {opened : List Nat} {room : Nat} {n : Int} :
      isLong n = false → Writable opened room (.int n)
  | real {opened : List Nat} {room : Nat} (x : Binary64) : Writable opened room (.real x)
  | text {opened : List Nat} {room : Nat} (s : List CodePoint) : Writable opened room (.text s)
  | bytes {opened : List Nat} {room : Nat} (bs : List UInt8) :
      Writable opened (room + 1) (.bytes bs)
  | date {opened : List Nat} {room : Nat} (d : Date) : Writable opened (room + 1) (.date d)
  | moment {opened : List Nat} {room : Nat} (m : Moment) : Writable opened (room + 1) (.moment m)
  /-- A set is shown as a whole, and so are its members. -/
  | set {opened : List Nat} {room : Nat} {xs : List Value} :
      (Value.set xs).showsLong [] = false → (Value.set xs).exceeds (room + 1) = false →
      Writable opened (room + 1) (.set xs)
  | list {opened : List Nat} {room : Nat} {xs : List Value} :
      (∀ x ∈ xs, Writable opened room x) → Writable opened (room + 1) (.list xs)
  | tuple {opened : List Nat} {room : Nat} {xs : List Value} :
      (∀ x ∈ xs, Writable opened room x) → Writable opened (room + 1) (.tuple xs)
  | map {opened : List Nat} {room : Nat} {es : List (Value × Value)} :
      (∀ e ∈ es, PlainKey e.1) → (∀ e ∈ es, Writable opened room e.2) →
      Writable opened (room + 1) (.map es)
  | shared {opened : List Nat} {room label : Nat} {body : Value} :
      label ∉ opened → Writable (label :: opened) (room + 1) body →
      Writable opened (room + 1) (.shared label body)

section
variable {opened : List Nat} {room : Nat}

private theorem plainKey_int_iff {n : Int} : PlainKey (.int n) ↔ isLong n = false where
  mp h := by
    cases h with
    | int hn => exact hn
  mpr := .int

private theorem writable_int_iff {n : Int} : Writable opened room (.int n) ↔ isLong n = false where
  mp h := by
    cases h with
    | int hn => exact hn
  mpr := .int

private theorem writable_set_iff {xs : List Value} :
    Writable opened (room + 1) (.set xs) ↔
      (Value.set xs).showsLong [] = false ∧ (Value.set xs).exceeds (room + 1) = false where
  mp h := by
    cases h with
    | set hshort hflat => exact ⟨hshort, hflat⟩
  mpr h := .set h.1 h.2

private theorem writable_list_iff {xs : List Value} :
    Writable opened (room + 1) (.list xs) ↔ ∀ x ∈ xs, Writable opened room x where
  mp h := by
    cases h with
    | list hxs => exact hxs
  mpr := .list

private theorem writable_tuple_iff {xs : List Value} :
    Writable opened (room + 1) (.tuple xs) ↔ ∀ x ∈ xs, Writable opened room x where
  mp h := by
    cases h with
    | tuple hxs => exact hxs
  mpr := .tuple

private theorem writable_map_iff {es : List (Value × Value)} :
    Writable opened (room + 1) (.map es) ↔ ∀ e ∈ es, PlainKey e.1 ∧ Writable opened room e.2 where
  mp h := by
    cases h with
    | map hkeys hvalues => exact fun e he => ⟨hkeys e he, hvalues e he⟩
  mpr h := .map (fun e he => (h e he).1) fun e he => (h e he).2

private theorem writable_shared_iff {label : Nat} {body : Value} :
    Writable opened (room + 1) (.shared label body) ↔
      label ∉ opened ∧ Writable (label :: opened) (room + 1) body where
  mp h := by
    cases h with
    | shared hnew hbody => exact ⟨hnew, hbody⟩
  mpr h := .shared h.1 h.2

end

private theorem jsonKey_ok_iff (key : Value) : (∃ s, key.jsonKey = .ok s) ↔ PlainKey key := by
  unfold jsonKey
  split
  · exact iff_of_true ⟨_, rfl⟩ (.text _)
  · exact iff_of_true ⟨_, rfl⟩ (.real _)
  · exact iff_of_true ⟨_, rfl⟩ (.bool _)
  · exact iff_of_true ⟨_, rfl⟩ .null
  · rw [mapError_ok_iff, (integerText_unless _).ok_iff, plainKey_int_iff]
  · rename_i htext hreal hbool hnull hint
    refine iff_of_false nofun fun h => ?_
    cases h with
    | text s => exact htext s rfl
    | real x => exact hreal x rfl
    | bool b => exact hbool b rfl
    | null => exact hnull rfl
    | @int n _ => exact hint n rfl

private theorem jsonDisplay_ok_iff (room : Nat) (v : Value) :
    (∃ s, v.jsonDisplay (room + 1) = .ok s) ↔
      v.showsLong [] = false ∧ v.exceeds (room + 1) = false := by
  rw [jsonDisplay, map_ok_iff, mapError_ok_iff, (v.displayWithin_unless room).ok_iff]

-- The recursion is that of the writer. Only a shared container adds to `opened`, so the parts of a
-- container are judged each on its own.
mutual
private theorem jsonIn_ok_iff (opened : List Nat) :
    ∀ (room : Nat) (v : Value), (∃ s, jsonIn opened room v = .ok s) ↔ Writable opened room v
  | _, .null => iff_of_true ⟨_, by rw [jsonIn]⟩ .null
  | _, .bool b => iff_of_true ⟨_, by rw [jsonIn]⟩ (.bool b)
  | _, .real x => iff_of_true ⟨_, by rw [jsonIn]⟩ (.real x)
  | _, .text s => iff_of_true ⟨_, by rw [jsonIn]⟩ (.text s)
  | _, .int n => by
    rw [jsonIn, mapError_ok_iff, (integerText_unless n).ok_iff, writable_int_iff]
  | 0, .bytes _ | 0, .date _ | 0, .moment _ | 0, .set _ | 0, .list _ | 0, .tuple _ | 0, .map _
  | 0, .shared _ _ | 0, .inside _ => by
    rw [jsonIn]
    · exact iff_of_false nofun nofun
    all_goals nofun
  | room + 1, .bytes bs => by
    rw [jsonIn, jsonDisplay_ok_iff]
    · exact iff_of_true ⟨rfl, rfl⟩ (.bytes bs)
    all_goals nofun
  | room + 1, .date d => by
    rw [jsonIn, jsonDisplay_ok_iff]
    · exact iff_of_true ⟨rfl, rfl⟩ (.date d)
    all_goals nofun
  | room + 1, .moment m => by
    rw [jsonIn, jsonDisplay_ok_iff]
    · exact iff_of_true ⟨rfl, rfl⟩ (.moment m)
    all_goals nofun
  | room + 1, .set xs => by
    rw [jsonIn, jsonDisplay_ok_iff, writable_set_iff]
    all_goals nofun
  | room + 1, .list xs => by
    rw [jsonIn, bind_ok_iff fun _ => iff_of_true ⟨_, rfl⟩ trivial, and_true,
      jsonItems_ok_iff opened room xs, writable_list_iff]
  | room + 1, .tuple xs => by
    rw [jsonIn, bind_ok_iff fun _ => iff_of_true ⟨_, rfl⟩ trivial, and_true,
      jsonItems_ok_iff opened room xs, writable_tuple_iff]
  | room + 1, .map es => by
    rw [jsonIn, bind_ok_iff fun _ => iff_of_true ⟨_, rfl⟩ trivial, and_true,
      jsonEntries_ok_iff opened room es, writable_map_iff]
  | room + 1, .shared label body => by
    rw [jsonIn, List.contains_eq_mem, writable_shared_iff]
    by_cases h : label ∈ opened
    · simp only [h, decide_true, if_true]
      exact iff_of_false nofun fun hw => hw.1 trivial
    · simp only [h, decide_false, Bool.false_eq_true, if_false, not_false_eq_true, true_and]
      exact jsonIn_ok_iff (label :: opened) (room + 1) body
  | room + 1, .inside label => by
    rw [jsonIn]
    exact iff_of_false nofun nofun

private theorem jsonItems_ok_iff (opened : List Nat) (room : Nat) :
    ∀ xs : List Value,
      (∃ pieces, jsonItems opened room xs = .ok pieces) ↔ ∀ x ∈ xs, Writable opened room x
  | [] => iff_of_true ⟨_, by rw [jsonItems]⟩ nofun
  | x :: xs => by
    rw [jsonItems, bind_ok_iff fun _ => bind_ok_iff fun _ => iff_of_true ⟨_, rfl⟩ trivial,
      and_true, jsonIn_ok_iff opened room x, jsonItems_ok_iff opened room xs,
      List.forall_mem_cons]

private theorem jsonEntries_ok_iff (opened : List Nat) (room : Nat) :
    ∀ es : List (Value × Value), (∃ pieces, jsonEntries opened room es = .ok pieces) ↔
      ∀ e ∈ es, PlainKey e.1 ∧ Writable opened room e.2
  | [] => iff_of_true ⟨_, by rw [jsonEntries]⟩ nofun
  | (k, v) :: es => by
    rw [jsonEntries, bind_ok_iff fun _ => bind_ok_iff fun _ => bind_ok_iff fun _ =>
        iff_of_true ⟨_, rfl⟩ trivial,
      and_true, jsonKey_ok_iff k, jsonIn_ok_iff opened room v, jsonEntries_ok_iff opened room es,
      List.forall_mem_cons, and_assoc]
end

/-- A value has a line of JSON exactly if it can be written. -/
theorem json_ok_iff (v : Value) : (∃ line, v.json = .ok line) ↔ v.Writable [] depthLimit :=
  jsonIn_ok_iff [] depthLimit v

end Value

end FeatureRun.Data

namespace FeatureRun.Spec
open FeatureRun.Number FeatureRun.Data

/-- A number is written as an integer where it is one, and all else as it is. -/
private theorem wholeNumber_writable_iff {v : Value} :
    (wholeNumber v).Writable [] depthLimit ↔ v.Writable [] depthLimit := by
  unfold wholeNumber
  split
  · rename_i x
    refine iff_of_true ?_ (.real x)
    split
    · cases x with
      | finite s m e h => exact .int (isLong_truncate (x := .finite s m e h) rfl)
      | infinite _ => contradiction
      | nan => contradiction
    · exact .real x
  · rfl

/-- A step is announced exactly if its payload can be written. -/
theorem Step.trace_ok_iff {step : Step} :
    (∃ line, step.trace = .ok line) ↔ step.payload.Writable [] depthLimit := by
  rw [trace, Value.json_ok_iff, wholeNumber_writable_iff]

section Records
variable {room : Nat}

/-- A record can be written if its fields can. -/
private theorem recordValue_writable_iff {fields : List (String × Value)} :
    (recordValue fields).Writable [] (room + 1) ↔ ∀ f ∈ fields, f.2.Writable [] room := by
  rw [recordValue, Value.writable_map_iff, List.forall_mem_map]
  exact forall₂_congr fun f _ => and_iff_right (.text f.1)

private theorem textRecord_writable (fields : List (String × String)) :
    (recordValue (fields.map fun f => (f.1, .text f.2))).Writable [] (room + 1) := by
  rw [recordValue_writable_iff, List.forall_mem_map]
  exact fun f _ => .text f.2

private theorem timeoutRecord_writable_iff {s : String} {t : Int} :
    (recordValue [("text", .text s), ("timeout", .int t)]).Writable [] (room + 1) ↔
      isLong t = false := by
  rw [recordValue_writable_iff, List.forall_mem_cons, List.forall_mem_singleton,
    Value.writable_int_iff]
  exact and_iff_right (.text s)

private theorem timeoutRecord_long {s : String} {t : Int} (h : isLong t = true) :
    (recordValue [("text", .text s), ("timeout", .int t)]).jsonIn [] (room + 1) =
      .error (.conversion (.tooManyDigits none)) := by
  simp only [recordValue, List.map_cons, List.map_nil, Value.jsonIn, Value.jsonEntries,
    Value.jsonKey, integerText_long h]
  rfl

end Records

namespace Instruction

def Overlong : Instruction → Prop
  | .await _ _ (some t) => isLong t = true
  | _ => False

theorem overlong_substitute (vars : Variables) (i : Instruction) :
    (i.substitute vars).Overlong ↔ i.Overlong := by
  cases i with
  | await _ _ t => cases t <;> rfl
  | _ => rfl

/-- What a known action takes can be written but for a timeout that is too long. -/
theorem payload_writable_iff (i : Instruction) :
    i.payload.Writable [] depthLimit ↔ ¬ i.Overlong := by
  cases i with
  | text _ s | clickText s => exact iff_of_true (.text s) id
  | await _ s t =>
    cases t with
    | none => exact iff_of_true (textRecord_writable [("text", s)]) id
    | some t => exact timeoutRecord_writable_iff.trans (Bool.not_eq_true _).to_iff.symm
  | fill s v => exact iff_of_true (textRecord_writable [("selector", s), ("value", v)]) id
  | fillField l v => exact iff_of_true (textRecord_writable [("label", l), ("value", v)]) id
  | select l o => exact iff_of_true (textRecord_writable [("label", l), ("option", o)]) id
  | clickSelector s => exact iff_of_true (textRecord_writable [("selector", s)]) id
  | wait x => exact iff_of_true (.real x) id

theorem trace_overlong {i : Instruction} (h : i.Overlong) :
    (Step.known i).trace = .error (.conversion (.tooManyDigits none)) := by
  unfold Overlong at h
  split at h
  · exact timeoutRecord_long h
  · exact h.elim

end Instruction

end FeatureRun.Spec
