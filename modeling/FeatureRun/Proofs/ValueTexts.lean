import FeatureRun.Data.Display

/-!
The values that have a text. Two things stand against that: an integer beyond the digit limit that
would have to be shown, and more values one inside the other than can be gone into. Which of them is
met first decides the failure. Main statement: `Value.display_unless`.
-/
namespace FeatureRun.Data
open FeatureRun.Text FeatureRun.Number
open scoped FeatureRun.CoreInstances

def isLong (n : Int) : Bool := decide (10 ^ digitLimit ≤ n.natAbs)

theorem isLong_of_lt {n : Int} {k : Nat} (hk : k ≤ digitLimit) (hn : n.natAbs < 10 ^ k) :
    isLong n = false :=
  decide_eq_false (Nat.not_le_of_lt
    (Nat.lt_of_lt_of_le hn (Nat.pow_le_pow_right (by decide) hk)))

namespace Value

mutual
/-- An integer beyond the digit limit is shown in the value. What stands for a container inside
itself shows nothing. -/
def showsLong (opened : List Nat) : Value → Bool
  | .int n => isLong n
  | .list xs | .tuple xs | .set xs => anyShowsLong opened xs
  | .map es => anyEntryShowsLong opened es
  | .shared label body => !opened.contains label && showsLong (label :: opened) body
  | _ => false

def anyShowsLong (opened : List Nat) : List Value → Bool
  | [] => false
  | x :: xs => showsLong opened x || anyShowsLong opened xs

def anyEntryShowsLong (opened : List Nat) : List (Value × Value) → Bool
  | [] => false
  | (k, v) :: es => showsLong opened k || showsLong opened v || anyEntryShowsLong opened es
end

mutual
/-- How many values lie one inside the other, the value itself being one. -/
def depthIn (opened : List Nat) : Value → Nat
  | .list xs | .tuple xs | .set xs => depthOfAll opened xs + 1
  | .map es => depthOfEntries opened es + 1
  | .shared label body => if opened.contains label then 1 else depthIn (label :: opened) body
  | _ => 1

def depthOfAll (opened : List Nat) : List Value → Nat
  | [] => 0
  | x :: xs => max (depthIn opened x) (depthOfAll opened xs)

def depthOfEntries (opened : List Nat) : List (Value × Value) → Nat
  | [] => 0
  | (k, v) :: es =>
    max (max (depthIn opened k) (depthIn opened v)) (depthOfEntries opened es)
end

def exceeds (room : Nat) (v : Value) : Bool := room.blt (v.depthIn [])

def lacksText (v : Value) : Bool := v.showsLong [] || v.exceeds depthLimit

end Value

inductive ThereUnless {α : Type} : Bool → Except ConversionError α → Prop
  | there (x : α) : ThereUnless false (.ok x)
  | tooLong : ThereUnless true (.error (.tooManyDigits none))

namespace ThereUnless
variable {α β : Type} {r : Except ConversionError α} {long : Bool}

theorem map {g : α → β} (h : ThereUnless long r) : ThereUnless long (r.map g) := by
  cases h with
  | there x => exact .there (g x)
  | tooLong => exact .tooLong

theorem exists_there (h : ThereUnless false r) : ∃ x, r = .ok x := by
  cases h with
  | there x => exact ⟨x, rfl⟩

theorem ok_iff (h : ThereUnless long r) : (∃ x, r = .ok x) ↔ long = false := by
  cases h with
  | there x => exact iff_of_true ⟨x, rfl⟩ rfl
  | tooLong => exact iff_of_false nofun nofun

theorem error (h : ThereUnless true r) : r = .error (.tooManyDigits none) := by
  cases h with
  | tooLong => rfl

end ThereUnless

theorem integerText_unless (n : Int) : ThereUnless (isLong n) (integerText n) := by
  unfold integerText isLong
  generalize 10 ^ digitLimit = limit
  rcases Nat.lt_or_ge n.natAbs limit with h | h
  · rw [if_pos h, decide_eq_false (Nat.not_le_of_lt h)]
    exact .there _
  · rw [if_neg (Nat.not_lt_of_le h), decide_eq_true h]
    exact .tooLong

theorem integerText_long {n : Int} (h : isLong n = true) :
    integerText n = .error (.tooManyDigits none) := by
  have hlong := integerText_unless n
  rw [h] at hlong
  exact hlong.error

/-- A result that is there unless a number in it is too long or a value too deep. -/
inductive TextUnless {α : Type} : Bool → Bool → Except ConversionError α → Prop
  | there (x : α) : TextUnless false false (.ok x)
  | tooLong {deep : Bool} : TextUnless true deep (.error (.tooManyDigits none))
  | tooDeep {long : Bool} : TextUnless long true (.error .tooDeep)

theorem ThereUnless.text {α : Type} {r : Except ConversionError α} {long : Bool}
    (h : ThereUnless long r) : TextUnless long false r := by
  cases h with
  | there x => exact .there x
  | tooLong => exact .tooLong

namespace TextUnless
variable {α β : Type} {r : Except ConversionError α} {long deep later deeper : Bool}

theorem bind {f : α → Except ConversionError β} (h : TextUnless long deep r)
    (hf : ∀ x, TextUnless later deeper (f x)) :
    TextUnless (long || later) (deep || deeper) (r >>= f) := by
  cases h with
  | there x => exact hf x
  | tooLong => exact .tooLong
  | tooDeep => exact .tooDeep

theorem bind_there {f : α → Except ConversionError β} (h : TextUnless long deep r)
    (hf : ∀ x, TextUnless false false (f x)) : TextUnless long deep (r >>= f) := by
  have hb := h.bind hf
  rwa [Bool.or_false, Bool.or_false] at hb

theorem mapM {f : α → Except ConversionError β} {long deep : α → Bool} {xs : List α}
    (hf : ∀ x, TextUnless (long x) (deep x) (f x)) :
    TextUnless (xs.any long) (xs.any deep) (xs.mapM f) := by
  induction xs with
  | nil => exact .there []
  | cons x xs ih =>
    rw [List.mapM_cons, List.any_cons, List.any_cons]
    exact (hf x).bind fun y => ih.bind_there fun ys => .there (y :: ys)

theorem ok_iff (h : TextUnless long deep r) : (∃ x, r = .ok x) ↔ long = false ∧ deep = false := by
  cases h with
  | there x => exact iff_of_true ⟨x, rfl⟩ ⟨rfl, rfl⟩
  | tooLong => exact iff_of_false nofun nofun
  | tooDeep => exact iff_of_false nofun nofun

theorem error_iff (h : TextUnless long deep r) : (∃ c, r = .error c) ↔ (long || deep) = true := by
  cases h with
  | there x => exact iff_of_false nofun nofun
  | tooLong => exact iff_of_true ⟨_, rfl⟩ rfl
  | tooDeep => exact iff_of_true ⟨_, rfl⟩ (Bool.or_true _)

theorem tooDeep_iff (h : TextUnless false deep r) : r = .error .tooDeep ↔ deep = true := by
  cases h with
  | there x => exact iff_of_false nofun nofun
  | tooDeep => exact iff_of_true rfl rfl

theorem deep_of_tooDeep (h : TextUnless long deep r) (hr : r = .error .tooDeep) : deep = true := by
  cases h with
  | tooDeep => rfl
  | _ => cases hr

end TextUnless

/-- The whole part of a real can be written. -/
theorem isLong_truncate {x : Binary64} {n : Int} (h : x.truncate? = some n) : isLong n = false := by
  cases x with
  | finite s m e hfits =>
    obtain ⟨hsmall, _, _, hhigh⟩ := fits_iff.mp hfits
    have hsize : n.natAbs = m * 2 ^ e.toNat / 2 ^ (-e).toNat := by
      rw [← Option.some.inj h]
      cases s
      · exact Int.natAbs_natCast _
      · exact (Int.natAbs_neg _).trans (Int.natAbs_natCast _)
    have hdigits : 53 + e.toNat ≤ digitLimit := by
      have hlimit : digitLimit = 4300 := rfl
      omega
    refine isLong_of_lt hdigits ?_
    calc n.natAbs ≤ m * 2 ^ e.toNat := hsize ▸ Nat.div_le_self _ _
      _ < 2 ^ (53 : Nat) * 2 ^ e.toNat :=
        Nat.mul_lt_mul_of_pos_right hsmall (Nat.two_pow_pos _)
      _ = 2 ^ (53 + e.toNat) := (Nat.pow_add 2 53 e.toNat).symm
      _ ≤ 10 ^ (53 + e.toNat) := Nat.pow_le_pow_left (by decide) _
  | infinite _ => cases h
  | nan => cases h

namespace Value

private theorem depthIn_pos (opened : List Nat) : ∀ v : Value, 0 < depthIn opened v
  | .shared label body => by
    rw [depthIn]
    split
    · exact Nat.one_pos
    · exact depthIn_pos (label :: opened) body
  | .list _ | .tuple _ | .set _ | .map _ => by
    rw [depthIn]
    exact Nat.succ_pos _
  | .null | .bool _ | .int _ | .real _ | .text _ | .bytes _ | .date _ | .moment _ | .inside _ => by
    simp only [depthIn]
    exact Nat.one_pos

private theorem contains_labels (opened : List (Nat × String)) (label : Nat) :
    (opened.map Prod.fst).contains label = (opened.lookup label).isSome := by
  induction opened with
  | nil => rfl
  | cons entry rest ih =>
    obtain ⟨l, d⟩ := entry
    rw [List.map_cons, List.contains_cons, ih, List.lookup_cons]
    cases label == l <;> rfl

private theorem blt_max (room a b : Nat) : room.blt (max a b) = (room.blt a || room.blt b) := by
  rw [Bool.eq_iff_iff, Bool.or_eq_true, Nat.blt_eq, Nat.blt_eq, Nat.blt_eq]
  omega

private theorem blt_of_pos {depth : Nat} (h : 0 < depth) : Nat.blt 0 depth = true :=
  (Nat.blt_eq).mpr h

-- The recursion is that of the writer: a container leaves less room to its parts, and its name none
-- to what refers to it.
mutual
private theorem shownIn_unless (opened : List (Nat × String)) : ∀ (room : Nat) (v : Value),
    TextUnless (showsLong (opened.map Prod.fst) v)
      (room.blt (depthIn (opened.map Prod.fst) v)) (shownIn opened room v)
  | 0, v => by
    rw [shownIn, blt_of_pos (depthIn_pos _ v)]
    exact .tooDeep
  | room + 1, .null | room + 1, .bool _ | room + 1, .real _ | room + 1, .text _
  | room + 1, .bytes _ | room + 1, .date _ | room + 1, .moment _ | room + 1, .inside _ => by
    simp only [showsLong, depthIn, shownIn]
    exact .there _
  | room + 1, .int n => by
    simp only [showsLong, depthIn, shownIn]
    exact (integerText_unless n).text
  | room + 1, .list xs => by
    simp only [showsLong, depthIn, shownIn]
    exact (shownItems_unless opened room xs).bind_there fun _ => .there _
  | room + 1, .tuple xs => by
    simp only [showsLong, depthIn, shownIn]
    refine (shownItems_unless opened room xs).bind_there fun pieces => ?_
    split <;> exact .there _
  | room + 1, .set xs => by
    simp only [showsLong, depthIn, shownIn]
    refine (shownItems_unless opened room xs).bind_there fun pieces => ?_
    split <;> exact .there _
  | room + 1, .map es => by
    simp only [showsLong, depthIn, shownIn]
    exact (shownEntries_unless opened room es).bind_there fun _ => .there _
  | room + 1, .shared label body => by
    simp only [showsLong, depthIn, shownIn, contains_labels]
    cases opened.lookup label with
    | some d =>
      simp only [Option.isSome_some, if_true, Bool.not_true, Bool.false_and]
      exact .there d
    | none => exact shownIn_unless ((label, body.dots) :: opened) (room + 1) body

private theorem shownItems_unless (opened : List (Nat × String)) (room : Nat) : ∀ xs : List Value,
    TextUnless (anyShowsLong (opened.map Prod.fst) xs)
      (room.blt (depthOfAll (opened.map Prod.fst) xs)) (shownItems opened room xs)
  | [] => by
    simp only [anyShowsLong, depthOfAll, shownItems]
    exact .there _
  | x :: xs => by
    simp only [anyShowsLong, depthOfAll, shownItems, blt_max]
    exact (shownIn_unless opened room x).bind fun _ =>
      (shownItems_unless opened room xs).bind_there fun _ => .there _

private theorem shownEntries_unless (opened : List (Nat × String)) (room : Nat) :
    ∀ es : List (Value × Value), TextUnless (anyEntryShowsLong (opened.map Prod.fst) es)
      (room.blt (depthOfEntries (opened.map Prod.fst) es)) (shownEntries opened room es)
  | [] => by
    simp only [anyEntryShowsLong, depthOfEntries, shownEntries]
    exact .there _
  | (k, v) :: es => by
    simp only [anyEntryShowsLong, depthOfEntries, shownEntries, blt_max, Bool.or_assoc]
    exact (shownIn_unless opened room k).bind fun _ => (shownIn_unless opened room v).bind fun _ =>
      (shownEntries_unless opened room es).bind_there fun _ => .there _
end

theorem shown_unless (v : Value) :
    TextUnless (v.showsLong []) (v.exceeds depthLimit) v.shown := shownIn_unless [] depthLimit v

theorem displayWithin_unless (room : Nat) (v : Value) :
    TextUnless (v.showsLong []) (v.exceeds (room + 1)) (v.displayWithin (room + 1)) := by
  cases v with
  | text _ | date _ | moment _ =>
    simp only [exceeds, depthIn, showsLong]
    exact .there _
  | _ => exact shownIn_unless [] (room + 1) _

/-- A value has a text unless an integer in it is too long or it is too deep. -/
theorem display_unless (v : Value) :
    TextUnless (v.showsLong []) (v.exceeds depthLimit) v.display :=
  displayWithin_unless _ v

/-- The value is too deep to be shown, and no integer that is shown before is too long. -/
def TooDeep (v : Value) : Prop := v.shown = .error .tooDeep

/-- Where no integer is too long, a value is too deep exactly if too many lie one inside the other. -/
theorem tooDeep_iff {v : Value} (h : v.showsLong [] = false) :
    v.TooDeep ↔ v.exceeds depthLimit = true := by
  have hshown := v.shown_unless
  rw [h] at hshown
  exact hshown.tooDeep_iff

theorem TooDeep.exceeds {v : Value} (h : v.TooDeep) : v.exceeds depthLimit = true :=
  v.shown_unless.deep_of_tooDeep h

/-- A value without parts is not too deep. -/
theorem not_tooDeep {v : Value} (h : v.depthIn [] = 1) : ¬ v.TooDeep := by
  intro hdeep
  have hexceeds := hdeep.exceeds
  rw [Value.exceeds, h] at hexceeds
  cases hexceeds

/-- An empty list in so many lists. -/
def nested : Nat → Value
  | 0 => .list []
  | n + 1 => .list [nested n]

private theorem depthIn_nested (n : Nat) : (nested n).depthIn [] = n + 1 := by
  induction n with
  | zero => rfl
  | succ n ih => rw [nested, depthIn, depthOfAll, ih, depthOfAll, Nat.max_zero]

private theorem showsLong_nested (n : Nat) : (nested n).showsLong [] = false := by
  induction n with
  | zero => rfl
  | succ n ih => rw [nested, showsLong, anyShowsLong, ih, anyShowsLong, Bool.or_false]

theorem nested_tooDeep_iff {n : Nat} : (nested n).TooDeep ↔ depthLimit ≤ n := by
  rw [tooDeep_iff (showsLong_nested n), exceeds, depthIn_nested, Nat.blt_eq, Nat.lt_succ_iff]

private theorem putAll_empty {label : Nat} {whole : Value} {xs : List Value}
    (h : (putAll label whole xs).isEmpty = true) : xs = [] := by
  cases xs with
  | nil => rfl
  | cons _ _ => simp [putAll] at h

private theorem putEntries_empty {label : Nat} {whole : Value} {es : List (Value × Value)}
    (h : (putEntries label whole es).isEmpty = true) : es = [] := by
  cases es with
  | nil => rfl
  | cons _ _ => simp [putEntries] at h

theorem lacksText_int {n : Int} (h : isLong n = true) : (Value.int n).lacksText = true := by
  rw [lacksText, showsLong, h]
  rfl

private theorem lacksText_zero : (Value.int 0).lacksText = false := by
  have hzero : isLong 0 = false := decide_eq_false (Nat.not_le_of_lt (Nat.pow_pos (by decide)))
  rw [lacksText, showsLong, hzero]
  rfl

/-- What counts as nothing has a text. -/
theorem lacksText_of_falsy {v : Value} (h : v.isTruthy = false) : v.lacksText = false := by
  cases v with
  | null | bool _ | real _ | text _ | bytes _ | date _ | moment _ | inside _ =>
    simp only [lacksText, showsLong, exceeds, depthIn]
    rfl
  | int n =>
    have hn : n = 0 := by simpa [isTruthy, exposed] using h
    rw [hn]
    exact lacksText_zero
  | list xs | tuple xs | set xs =>
    have hx : xs = [] := by simpa [isTruthy, exposed] using h
    rw [hx]
    rfl
  | map es =>
    have hx : es = [] := by simpa [isTruthy, exposed] using h
    rw [hx]
    rfl
  | shared label body =>
    cases body with
    | int n =>
      have hn : n = 0 := by simpa [isTruthy, exposed, put] using h
      rw [hn]
      simpa [lacksText, exceeds, showsLong, depthIn] using lacksText_zero
    | list xs | tuple xs | set xs =>
      have hx : xs = [] := putAll_empty (by simpa [isTruthy, exposed, put] using h)
      rw [hx]
      rfl
    | map es =>
      have hx : es = [] := putEntries_empty (by simpa [isTruthy, exposed, put] using h)
      rw [hx]
      rfl
    | shared l inner =>
      by_cases hl : l = label <;> simp [isTruthy, exposed, put, hl] at h
    | _ =>
      simp only [lacksText, showsLong, exceeds, depthIn]
      rfl

end Value

end FeatureRun.Data
