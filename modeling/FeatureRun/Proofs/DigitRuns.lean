import FeatureRun.Number.Reading
import FeatureRun.Proofs.Trimming

/-!
Runs of digit characters, and what is read from them. The decimal digits of all scripts are read by
their values; a digit character without a decimal value is no part of a number, though it is a digit
character. Main statements: `readInteger_digits`, `readReal_decimals`.
-/
namespace FeatureRun.Text

section Classes

theorem Ranges.holds_append (rs ss : Ranges) (n : Nat) :
    (rs ++ ss : Ranges).holds n = (rs.holds n || ss.holds n) := List.any_append

def Ranges.apart (rs ss : Ranges) : Bool :=
  rs.all fun r => ss.all fun s => r.2.blt s.1 || s.2.blt r.1

theorem Ranges.not_holds_of_apart {rs ss : Ranges} (h : rs.apart ss = true) {n : Nat}
    (hn : rs.holds n = true) : ss.holds n = false := by
  obtain ⟨r, hr, hlow, hhigh⟩ := holds_iff.mp hn
  rw [← Bool.not_eq_true, holds_iff]
  rintro ⟨s, hs, hlow', hhigh'⟩
  have hapart := List.all_eq_true.mp (List.all_eq_true.mp h r hr) s hs
  simp only [Bool.or_eq_true, Nat.blt_eq] at hapart
  omega

def digitRanges : Ranges := decimalZeros.map (fun z => (z, z + 9)) ++ otherDigitRanges

variable {c : Char} {d : Nat}

/-- A decimal digit stands at its distance from a zero. -/
private theorem digitValue?_zero (h : digitValue? c = some d) :
    ∃ z ∈ decimalZeros, z ≤ c.toNat ∧ c.toNat ≤ z + 9 ∧ d = c.toNat - z := by
  unfold digitValue? at h
  split at h
  · split at h
    · rename_i hc
      cases h
      simp only [Bool.and_eq_true, decide_eq_true_eq] at hc
      have hlow : 0x30 ≤ c.toNat := hc.1
      have hhigh : c.toNat ≤ 0x39 := hc.2
      exact ⟨0x30, List.mem_cons_self, hlow, hhigh, rfl⟩
    · cases h
  · obtain ⟨z, hz, rfl⟩ := Option.map_eq_some_iff.mp h
    have hin := List.find?_some hz
    simp only [Bool.and_eq_true, decide_eq_true_eq] at hin
    exact ⟨z, List.mem_of_find?_eq_some hz, hin.1, by omega, rfl⟩

private theorem digitValue?_lt (h : digitValue? c = some d) : d < 10 := by
  obtain ⟨z, _, _, _, rfl⟩ := digitValue?_zero h
  omega

theorem isDigit_holds (h : isDigit c = true) : digitRanges.holds c.toNat = true := by
  rw [digitRanges, Ranges.holds_append, Bool.or_eq_true]
  refine (Bool.or_eq_true _ _).mp h |>.imp_left fun hv => ?_
  obtain ⟨d, hd⟩ := Option.isSome_iff_exists.mp hv
  obtain ⟨z, hz, hlow, hhigh, _⟩ := digitValue?_zero hd
  exact Ranges.holds_iff.mpr ⟨(z, z + 9), List.mem_map.mpr ⟨z, hz, rfl⟩, hlow, hhigh⟩

def isDecimal (c : Char) : Bool := (digitValue? c).isSome

theorem isDigit_of_isDecimal (h : isDecimal c = true) : isDigit c = true := by
  rw [isDigit, Bool.or_eq_true]
  exact .inl h

theorem not_isBlank_of_isDigit (h : isDigit c = true) : isBlank c = false :=
  Ranges.not_holds_of_apart (by decide) (isDigit_holds h)

theorem ne_of_isDigit (h : isDigit c = true) {x : Char} (hx : isDigit x = false) : c ≠ x := by
  rintro rfl
  rw [h] at hx
  cases hx

/-- Digit characters without a decimal value are foreign. -/
private theorem foreign_of_isDigit (h : isDigit c = true) (hc : isDecimal c = false) :
    0x80 ≤ c.toNat := by
  have hother : otherDigitRanges.holds c.toNat = true := by
    rw [isDigit, Bool.or_eq_true] at h
    exact h.resolve_left (Bool.not_eq_true _ ▸ hc)
  obtain ⟨r, hr, hlow, _⟩ := Ranges.holds_iff.mp hother
  have hall : ∀ r ∈ otherDigitRanges, 0x80 ≤ r.1 := by decide
  exact Nat.le_trans (hall r hr) hlow

/-- The digits of this script have their values. -/
theorem isDecimal_of_isDigit (h : c.isDigit = true) : isDecimal c = true := by
  obtain ⟨hlow, hhigh⟩ := Char.isDigit_iff_toNat.mp h
  have hc : '0' ≤ c ∧ c ≤ '9' := ⟨hlow, hhigh⟩
  have hsmall : c.toNat < 0x80 := Nat.lt_of_le_of_lt hhigh (by decide)
  simp [isDecimal, digitValue?, hsmall, hc]

/-- A letter of this script in its small form, and anything else as it is. -/
theorem toLower_cases (c : Char) :
    c.toLower = c ∨ 0x41 ≤ c.toNat ∧ c.toNat ≤ 0x5A ∧ c.toLower.toNat = c.toNat + 0x20 := by
  unfold Char.toLower
  split
  · rename_i h
    have hlow : 0x41 ≤ c.toNat := h.1
    have hhigh : c.toNat ≤ 0x5A := h.2
    refine .inr ⟨hlow, hhigh, ?_⟩
    change (c.val + 0x20).toNat = c.toNat + 0x20
    rw [UInt32.toNat_add]
    change (c.toNat + 0x20) % 2 ^ 32 = c.toNat + 0x20
    omega
  · exact .inl rfl

end Classes

end FeatureRun.Text

namespace FeatureRun.Number
open FeatureRun.Text

def decimalsValue (ds : List Char) : Nat :=
  ds.foldl (fun n c => 10 * n + (digitValue? c).getD 0) 0

variable {ds : List Char} {c : Char}

/-- The digit of this script with a value below ten. -/
private theorem digitChar_plain {d : Nat} (hd : d < 10) :
    (digitChar d).isDigit = true ∧ hexValue? (digitChar d) = some d ∧
      (digitChar d).toNat - 0x30 = d := by
  have hall : ∀ d < 10, (digitChar d).isDigit = true ∧ hexValue? (digitChar d) = some d ∧
      (digitChar d).toNat - 0x30 = d := by decide
  exact hall d hd

private theorem plainDigit_decimal (h : isDecimal c = true) :
    ∃ d < 10, digitValue? c = some d ∧ plainDigit c = digitChar d := by
  obtain ⟨d, hd⟩ := Option.isSome_iff_exists.mp h
  exact ⟨d, digitValue?_lt hd, hd, by rw [plainDigit, hd]⟩

private theorem plainDigit_foreign (h : isDecimal c = false) : plainDigit c = c := by
  have hnone : digitValue? c = none :=
    Option.isNone_iff_eq_none.mp (Option.isSome_eq_false_iff.mp h)
  rw [plainDigit, hnone]

/-- A digit character is read as a digit of this script or as itself. -/
private theorem isDigit_plainDigit (h : isDigit c = true) : isDigit (plainDigit c) = true := by
  cases hc : isDecimal c with
  | true =>
    obtain ⟨d, hd, _, hplain⟩ := plainDigit_decimal hc
    rw [hplain]
    exact isDigit_of_isDecimal (isDecimal_of_isDigit (digitChar_plain hd).1)
  | false => rwa [plainDigit_foreign hc]

private theorem isDigit_plain (h : ∀ c ∈ ds, isDigit c = true) :
    ∀ c ∈ ds.map plainDigit, isDigit c = true := by
  rw [List.forall_mem_map]
  exact fun c hc => isDigit_plainDigit (h c hc)

private theorem digitsValue_plain (h : ∀ c ∈ ds, isDecimal c = true) :
    digitsValue (ds.map plainDigit) = decimalsValue ds := by
  rw [digitsValue, List.foldl_map, decimalsValue]
  refine List.foldl_ext _ _ _ fun n c hc => ?_
  obtain ⟨d, hd, hvalue, hplain⟩ := plainDigit_decimal (h c hc)
  rw [hplain, hvalue, (digitChar_plain hd).2.2]
  rfl

section Integers

private theorem hexValue?_lt (h : (hexValue? c).isSome = true) : c.toNat < 0x80 := by
  have hclose {low high : Char} (hc : (decide (low ≤ c) && decide (c ≤ high)) = true)
      (hhigh : high.toNat < 0x80) : c.toNat < 0x80 := by
    have hle : c ≤ high := of_decide_eq_true ((Bool.and_eq_true _ _).mp hc).2
    exact Nat.lt_of_le_of_lt hle hhigh
  unfold hexValue? at h
  split at h
  · exact hclose ‹_› (by decide)
  · split at h
    · exact hclose ‹_› (by decide)
    · split at h
      · exact hclose ‹_› (by decide)
      · cases h

/-- A run of decimal digits is read to its end. -/
private theorem digitRun_decimals (h : ∀ c ∈ ds, isDecimal c = true) (value count : Nat)
    {afterMark : Bool} (hmark : afterMark = true → ds ≠ []) :
    digitRun 10 value count afterMark (ds.map plainDigit) =
      ⟨ds.foldl (fun n c => 10 * n + (digitValue? c).getD 0) value, count + ds.length, [],
        true⟩ := by
  induction ds generalizing value count afterMark with
  | nil =>
    cases afterMark with
    | true => exact absurd rfl (hmark rfl)
    | false => rfl
  | cons c ds ih =>
    obtain ⟨hc, hds⟩ := List.forall_mem_cons.mp h
    obtain ⟨d, hd, hvalue, hplain⟩ := plainDigit_decimal hc
    have hdigit : (hexValue? (plainDigit c)).filter (· < 10) = some d := by
      rw [hplain, (digitChar_plain hd).2.1]
      exact Option.filter_some_pos (decide_eq_true hd)
    rw [List.map_cons, digitRun, hdigit]
    dsimp only
    rw [ih hds _ _ fun hmark => absurd hmark Bool.false_ne_true, List.foldl_cons, hvalue,
      Option.getD_some, Nat.mul_comm value, List.length_cons, Nat.add_assoc, Nat.add_comm 1]

/-- What is read to its end is digits and low lines. -/
private theorem digitRun_end {base value count : Nat} {afterMark : Bool} {s : List Char}
    (h : (digitRun base value count afterMark s).rest = []) :
    ∀ c ∈ s, (hexValue? c).isSome = true ∨ c = '_' := by
  induction s generalizing value count afterMark with
  | nil => nofun
  | cons c s ih =>
    rw [digitRun] at h
    split at h
    · rename_i hd
      refine List.forall_mem_cons.mpr ⟨.inl ?_, ih h⟩
      rw [(Option.filter_eq_some_iff.mp hd).1]
      rfl
    · split at h
      · rename_i hc
        simp only [Bool.and_eq_true, decide_eq_true_eq] at hc
        exact List.forall_mem_cons.mpr ⟨.inr hc.1, ih h⟩
      · cases h

private theorem isNumberBlank_of_isDigit (h : isDigit c = true) : isNumberBlank c = false := by
  rw [isNumberBlank, not_isBlank_of_isDigit h, Bool.false_and]

private theorem splitSign_plain {s : List Char} (hminus : '-' ∉ s) (hplus : '+' ∉ s) :
    splitSign s = (false, s) := by
  unfold splitSign
  split
  · exact absurd List.mem_cons_self hminus
  · exact absurd List.mem_cons_self hplus
  · rfl

private theorem not_mem_of_isDigit {s : List Char} (h : ∀ c ∈ s, isDigit c = true)
    (hc : isDigit c = false) : c ∉ s := fun hmem => ne_of_isDigit (h c hmem) hc rfl

private theorem dropBaseMark_ten (s : List Char) : dropBaseMark 10 s = (true, s) := by
  unfold dropBaseMark
  split
  · rfl
  · rfl

/-- Digit characters are read by their run alone: they have neither blanks nor a sign. -/
private theorem readInteger_run (h : ∀ c ∈ ds, isDigit c = true) :
    readInteger 10 ds =
      let run := digitRun 10 0 0 true (ds.map plainDigit)
      if !run.wellPlaced || run.count = 0 then
        .error (.badInteger 10 (String.ofList (quotedList ds)))
      else if digitLimit < run.count then .error (.tooManyDigits (some run.count))
      else if run.rest.isEmpty then .ok (run.value : Int)
      else .error (.badInteger 10 (String.ofList (quotedList ds))) := by
  have hsign : splitSign (ds.map plainDigit) = (false, ds.map plainDigit) :=
    splitSign_plain (not_mem_of_isDigit (isDigit_plain h) (by decide))
      (not_mem_of_isDigit (isDigit_plain h) (by decide))
  unfold readInteger readIntegerAs
  rw [trimWith_of_none fun c hc => isNumberBlank_of_isDigit (h c hc), hsign]
  simp only [dropBaseMark_ten, decide_true, Bool.true_and, decide_eq_true_eq, gt_iff_lt]
  rfl

/-- Decimal digits are read as an integer unless there are too many of them. -/
theorem readInteger_digits (h : ∀ c ∈ ds, isDecimal c = true) (hne : ds ≠ []) :
    readInteger 10 ds =
      if digitLimit < ds.length then .error (.tooManyDigits (some ds.length))
      else .ok (decimalsValue ds : Int) := by
  have hcount : ¬ ds.length = 0 := mt List.length_eq_zero_iff.mp hne
  rw [readInteger_run fun c hc => isDigit_of_isDecimal (h c hc),
    digitRun_decimals h 0 0 fun _ => hne]
  simp [hcount, decimalsValue]

/-- Digit characters one of which has no decimal value are not read as an integer. -/
theorem readInteger_foreign (h : ∀ c ∈ ds, isDigit c = true) (hc : c ∈ ds)
    (hforeign : isDecimal c = false) : ∃ e, readInteger 10 ds = .error e := by
  have hrest : (digitRun 10 0 0 true (ds.map plainDigit)).rest ≠ [] := by
    intro hend
    have hmem : c ∈ ds.map plainDigit := by
      rw [← plainDigit_foreign hforeign]
      exact List.mem_map_of_mem hc
    rcases digitRun_end hend c hmem with hhex | hline
    · exact absurd (hexValue?_lt hhex) (Nat.not_lt_of_le (foreign_of_isDigit (h c hc) hforeign))
    · exact ne_of_isDigit (h c hc) (by decide) hline
  rw [readInteger_run h]
  dsimp only
  split
  · exact ⟨_, rfl⟩
  · split
    · exact ⟨_, rfl⟩
    · rw [if_neg (by simpa using hrest)]
      exact ⟨_, rfl⟩

/-- Digit characters are read as an integer unless there are too many of them or one has no decimal
value. -/
theorem readInteger_error_iff (h : ∀ c ∈ ds, isDigit c = true) (hne : ds ≠ []) :
    (∃ e, readInteger 10 ds = .error e) ↔
      digitLimit < ds.length ∨ ∃ c ∈ ds, isDecimal c = false := by
  by_cases hdecimals : ∀ c ∈ ds, isDecimal c = true
  · have hnone : ¬ ∃ c ∈ ds, isDecimal c = false := fun ⟨c, hc, hforeign⟩ =>
      Bool.false_ne_true (hforeign.symm.trans (hdecimals c hc))
    rw [readInteger_digits hdecimals hne, or_iff_left hnone]
    split
    · exact iff_of_true ⟨_, rfl⟩ ‹_›
    · exact iff_of_false nofun ‹_›
  · obtain ⟨c, hforeign⟩ := Classical.not_forall.mp hdecimals
    obtain ⟨hc, hforeign⟩ := Classical.not_imp.mp hforeign
    rw [Bool.not_eq_true] at hforeign
    exact iff_of_true (readInteger_foreign h hc hforeign) (.inr ⟨c, hc, hforeign⟩)

end Integers

section Reals

private theorem dropMarks_of_none {s : List Char} (h : '_' ∉ s) (afterDigit : Bool) :
    dropMarks afterDigit s = some s := by
  induction s generalizing afterDigit with
  | nil => rfl
  | cons c s ih =>
    obtain ⟨hc, hs⟩ := not_or.mp (mt List.mem_cons.mpr h)
    rw [dropMarks, ih hs, Option.map_some]
    exact fun he => hc he.symm

/-- Digits in front of what does not begin with one. -/
private theorem spanDigits_append {r : List Char} (h : ∀ c ∈ ds, c.isDigit = true)
    (hr : ∀ c ∈ r.head?, c.isDigit = false) : spanDigits (ds ++ r) = (ds, r) := by
  rw [spanDigits, List.span_eq_takeWhile_dropWhile, List.takeWhile_append_of_pos h,
    List.dropWhile_append_of_pos h]
  cases r with
  | nil => simp
  | cons c r => simp [hr c rfl]

/-- The text is a run of characters in `p`, or two of them around a point, not both empty. -/
structure IsNumeral (p : Char → Bool) (s whole fraction : List Char) : Prop where
  written : s = whole ++ '.' :: fraction ∨ s = whole ∧ fraction = []
  some : whole ++ fraction ≠ []
  digits : ∀ c ∈ whole ++ fraction, p c = true

namespace IsNumeral
variable {p : Char → Bool} {s whole fraction : List Char}

theorem mem (h : IsNumeral p s whole fraction) : ∀ c ∈ s, p c = true ∨ c = '.' := by
  have hall := List.forall_mem_append.mp h.digits
  rcases h.written with rfl | ⟨rfl, rfl⟩
  · refine List.forall_mem_append.mpr ⟨fun c hc => .inl (hall.1 c hc), ?_⟩
    exact List.forall_mem_cons.mpr ⟨.inr rfl, fun c hc => .inl (hall.2 c hc)⟩
  · exact fun c hc => .inl (hall.1 c hc)

theorem map (h : IsNumeral p s whole fraction) {q : Char → Bool} {f : Char → Char}
    (hf : ∀ c, p c = true → q (f c) = true) (hpoint : f '.' = '.') :
    IsNumeral q (s.map f) (whole.map f) (fraction.map f) where
  written := by
    rcases h.written with rfl | ⟨rfl, rfl⟩
    · rw [List.map_append, List.map_cons, hpoint]
      exact .inl rfl
    · exact .inr ⟨rfl, rfl⟩
  some := by
    rw [← List.map_append]
    exact mt List.map_eq_nil_iff.mp h.some
  digits := by
    rw [← List.map_append, List.forall_mem_map]
    exact fun c hc => hf c (h.digits c hc)

theorem isDigit (h : IsNumeral isDecimal s whole fraction) :
    IsNumeral Text.isDigit s whole fraction :=
  ⟨h.written, h.some, fun c hc => isDigit_of_isDecimal (h.digits c hc)⟩

end IsNumeral

variable {s whole fraction : List Char}

/-- A numeral is read without a sign and not as a name. -/
private theorem readReal?_numeral (h : IsNumeral isDigit s whole fraction) :
    readReal? s = readUnsigned? false (s.map plainDigit) := by
  have hplain := (h.map (q := isDigit) (f := plainDigit) (fun _ => isDigit_plainDigit)
    (by decide)).mem
  have hnone (x : Char) (hx : isDigit x = false) (hpoint : x ≠ '.') : x ∉ s.map plainDigit :=
    fun hmem => (hplain x hmem).elim (fun hd => ne_of_isDigit hd hx rfl) hpoint
  have htrim : trimWith isNumberBlank s = s := by
    refine trimWith_of_none fun c hc => (h.mem c hc).elim isNumberBlank_of_isDigit ?_
    rintro rfl
    decide
  -- each of the names has the letter n
  have hname (name : String) (hn : 'n' ∈ name.toList) :
      String.ofList ((s.map plainDigit).map Char.toLower) ≠ name := by
    rintro rfl
    rw [String.toList_ofList] at hn
    obtain ⟨c, hc, hlow⟩ := List.mem_map.mp hn
    rcases toLower_cases c with hsame | ⟨_, _, hcode⟩
    · exact hnone 'n' (by decide) (by decide) (hsame.symm.trans hlow ▸ hc)
    · rw [hlow] at hcode
      have hcapital : c = 'N' := Char.toNat_inj.mp (Nat.add_right_cancel hcode.symm)
      exact hnone 'N' (by decide) (by decide) (hcapital ▸ hc)
  unfold readReal?
  rw [htrim, dropMarks_of_none (hnone '_' (by decide) (by decide)), Option.bind_eq_bind,
    Option.bind_some, splitSign_plain (hnone '-' (by decide) (by decide))
    (hnone '+' (by decide) (by decide))]
  dsimp only
  rw [if_neg (by
    rw [Bool.or_eq_true, decide_eq_true_eq, decide_eq_true_eq]
    exact fun hor => hor.elim (hname "inf" (by decide)) (hname "infinity" (by decide))),
    if_neg (hname "nan" (by decide))]

private theorem readUnsigned?_numeral (h : IsNumeral Char.isDigit s whole fraction)
    (negative : Bool) :
    readUnsigned? negative s =
      some (.ofDecimal negative (digitsValue (whole ++ fraction)) (-(fraction.length : Int))) := by
  obtain ⟨hwhole, hfraction⟩ := List.forall_mem_append.mp h.digits
  have hsome : (whole.isEmpty && fraction.isEmpty) = false := by
    rw [← Bool.not_eq_true, Bool.and_eq_true, List.isEmpty_iff, List.isEmpty_iff]
    exact fun hnone => h.some (List.append_eq_nil_iff.mpr hnone)
  have hspan (ds : List Char) (hds : ∀ c ∈ ds, c.isDigit = true) : spanDigits ds = (ds, []) := by
    simpa using spanDigits_append (r := []) hds (by simp)
  unfold readUnsigned?
  rcases h.written with rfl | ⟨rfl, rfl⟩
  · simp only [spanDigits_append hwhole (r := '.' :: fraction) (by simp), hspan _ hfraction, hsome,
      readExponent?, Option.map_some, Int.zero_sub]
    rfl
  · simp only [hspan _ hwhole, hsome, readExponent?, Option.map_some, Int.zero_sub]
    rfl

private def IsAscii (s : List Char) : Prop := ∀ c ∈ s, c.toNat < 0x80

private theorem IsAscii.append {t : List Char} (hs : IsAscii s) (ht : IsAscii t) :
    IsAscii (s ++ t) := List.forall_mem_append.mpr ⟨hs, ht⟩

private theorem IsAscii.cons {c : Char} (hc : c.toNat < 0x80) (hs : IsAscii s) :
    IsAscii (c :: s) := List.forall_mem_cons.mpr ⟨hc, hs⟩

/-- What follows the digits decides. -/
private theorem IsAscii.of_spanDigits (h : IsAscii (spanDigits s).2) : IsAscii s := by
  rw [spanDigits, List.span_eq_takeWhile_dropWhile] at h
  rw [← List.takeWhile_append_dropWhile (p := Char.isDigit) (l := s)]
  refine IsAscii.append (fun c hc => ?_) h
  have hdigit := Char.isDigit_iff_toNat.mp (List.mem_takeWhile_imp hc)
  exact Nat.lt_of_le_of_lt hdigit.2 (by decide)

private theorem IsAscii.of_splitSign (h : IsAscii (splitSign s).2) : IsAscii s := by
  unfold splitSign at h
  split at h
  · exact h.cons (by decide)
  · exact h.cons (by decide)
  · exact h

private theorem readExponent?_ascii {e : Int} (h : readExponent? s = some e) : IsAscii s := by
  unfold readExponent? at h
  split at h
  · nofun
  · rename_i c r
    split at h
    · rename_i hc
      dsimp only at h
      split at h
      · cases h
      · rename_i hrest
        have hend : (spanDigits (splitSign r).2).2 = [] := by simp_all
        have hletter : c.toNat < 0x80 := by
          simp only [Bool.or_eq_true, decide_eq_true_eq] at hc
          rcases hc with rfl | rfl <;> decide
        refine IsAscii.cons hletter (IsAscii.of_splitSign (IsAscii.of_spanDigits ?_))
        rw [hend]
        nofun
    · cases h

/-- What is read as a real is written in this script. -/
private theorem readUnsigned?_ascii {negative : Bool} {x : Binary64}
    (h : readUnsigned? negative s = some x) : IsAscii s := by
  unfold readUnsigned? at h
  dsimp only at h
  refine IsAscii.of_spanDigits ?_
  generalize spanDigits s = parts at h ⊢
  obtain ⟨whole, rest⟩ := parts
  dsimp only at h ⊢
  split at h
  · split at h
    · cases h
    · obtain ⟨e, he, _⟩ := Option.map_eq_some_iff.mp h
      exact IsAscii.cons (by decide) (IsAscii.of_spanDigits (readExponent?_ascii he))
  · split at h
    · cases h
    · obtain ⟨e, he, _⟩ := Option.map_eq_some_iff.mp h
      exact readExponent?_ascii he

/-- Decimal digits with at most one point are read as the number nearest to their value. -/
theorem readReal_decimals (h : IsNumeral isDecimal s whole fraction) :
    readReal s =
      .ok (.ofDecimal false (decimalsValue (whole ++ fraction)) (-(fraction.length : Int))) := by
  have hplain := h.map (q := Char.isDigit) (f := plainDigit)
    (fun c hc => by
      obtain ⟨d, hd, _, hplain⟩ := plainDigit_decimal hc
      rw [hplain]
      exact (digitChar_plain hd).1) (by decide)
  rw [readReal, readRealAs, readReal?_numeral h.isDigit, readUnsigned?_numeral hplain,
    ← List.map_append, digitsValue_plain h.digits, List.length_map]

/-- A numeral with a digit character that has no decimal value is not read as a real. -/
theorem readReal_foreign (h : IsNumeral isDigit s whole fraction) {c : Char}
    (hc : c ∈ whole ++ fraction) (hforeign : isDecimal c = false) :
    ∃ e, readReal s = .error e := by
  have hmem : c ∈ s.map plainDigit := by
    have hs : c ∈ s := by
      rcases h.written with rfl | ⟨rfl, rfl⟩
      · exact (List.mem_append.mp hc).elim (List.mem_append_left _)
          fun hf => List.mem_append_right _ (List.mem_cons_of_mem _ hf)
      · rwa [List.append_nil] at hc
    rw [← plainDigit_foreign hforeign]
    exact List.mem_map_of_mem hs
  have hnone : readUnsigned? false (s.map plainDigit) = none := by
    refine Option.eq_none_iff_forall_ne_some.mpr fun x hx => ?_
    exact absurd (readUnsigned?_ascii hx c hmem)
      (Nat.not_lt_of_le (foreign_of_isDigit (h.digits c hc) hforeign))
  rw [readReal, readRealAs, readReal?_numeral h, hnone]
  exact ⟨_, rfl⟩

/-- A numeral of digit characters is read exactly if they are decimal digits. -/
theorem readReal_ok_iff (h : IsNumeral isDigit s whole fraction) {x : Binary64} :
    readReal s = .ok x ↔ IsNumeral isDecimal s whole fraction ∧
      x = .ofDecimal false (decimalsValue (whole ++ fraction)) (-(fraction.length : Int)) := by
  constructor
  · intro hread
    have hdecimals : IsNumeral isDecimal s whole fraction := by
      refine ⟨h.written, h.some, fun c hc => ?_⟩
      by_contra hforeign
      obtain ⟨e, he⟩ := readReal_foreign h hc ((Bool.not_eq_true _).mp hforeign)
      rw [hread] at he
      cases he
    rw [readReal_decimals hdecimals] at hread
    exact ⟨hdecimals, (Except.ok.inj hread).symm⟩
  · rintro ⟨hdecimals, rfl⟩
    exact readReal_decimals hdecimals

end Reals

end FeatureRun.Number
