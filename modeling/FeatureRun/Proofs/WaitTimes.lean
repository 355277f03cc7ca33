import FeatureRun.Proofs.PageCalls
import FeatureRun.Proofs.SmallLetters
import FeatureRun.Proofs.StepGrammar

/-!
Waits for a time. What stands for a number of milliseconds is an integer, a real or a numeral with
the unit behind it. Main statements: `waitPayload_iff` and `perform_wait`.
-/
namespace FeatureRun.Spec
open FeatureRun.Text FeatureRun.Number FeatureRun.Data
open scoped FeatureRun.CoreInstances

/-- The text is a numeral with digits in `p` and the unit of milliseconds in any case, with blanks
around both. -/
structure HasUnit (p : Char → Bool) (s whole fraction : List Char) : Prop where
  written : ∃ number front between behind m u, IsNumeral p number whole fraction ∧
    s = front ++ (number ++ between ++ [m, u]) ++ behind ∧
    (∀ c ∈ front, isBlank c = true) ∧ (∀ c ∈ between, isBlank c = true) ∧
    (∀ c ∈ behind, isBlank c = true) ∧ (m = 'm' ∨ m = 'M') ∧ (u = 's' ∨ u = 'S')

/-- The values that stand for a number of milliseconds, each with the number. -/
inductive Amount : Value → Binary64 → Prop
  | integer {n : Int} : 0 ≤ n → n.natAbs < realLimit → Amount (.int n) (.ofInt n)
  | real {x : Binary64} : x.ltZero = false → Amount (.real x) x
  | text {s : List CodePoint} {whole fraction : List Char} :
      HasUnit isDecimal (asCharacters s) whole fraction →
      Amount (.text s)
        (.ofDecimal false (decimalsValue (whole ++ fraction)) (-(fraction.length : Int)))

section Units
variable {s whole fraction : List Char}

private theorem lowerChar_m (c : Char) : lowerChar c = 'm' ↔ c = 'm' ∨ c = 'M' :=
  lowerChar_eq_iff (by decide +kernel) (by decide) (by decide)

private theorem lowerChar_s (c : Char) : lowerChar c = 's' ↔ c = 's' ∨ c = 'S' :=
  lowerChar_eq_iff (by decide +kernel) (by decide) (by decide)

/-- The two characters of the unit, each in both cases. -/
private theorem hasUnit_iff :
    hasUnit s = true ↔ ∃ r m u, s = r ++ [m, u] ∧ (m = 'm' ∨ m = 'M') ∧ (u = 's' ∨ u = 'S') := by
  rw [hasUnit, List.isSuffixOf_iff_suffix]
  constructor
  · rintro ⟨out, hout⟩
    have hlowers := lowers_lowerAfter [] s
    change out ++ _ = lowerAfter [] s at hout
    rw [← hout] at hlowers
    obtain ⟨r, unit, rfl, _, hunit⟩ := hlowers.of_append_small (by decide +kernel)
    obtain ⟨m, rest, rfl, hm, hrest⟩ := List.map_eq_cons_iff.mp hunit.symm
    obtain ⟨u, rest, rfl, hu, hrest⟩ := List.map_eq_cons_iff.mp hrest
    rw [List.map_eq_nil_iff.mp hrest]
    exact ⟨r, m, u, rfl, (lowerChar_m m).mp hm, (lowerChar_s u).mp hu⟩
  · rintro ⟨r, m, u, rfl, hm, hu⟩
    obtain ⟨before, after, hout, _, hafter⟩ := (lowers_lowerAfter [] (r ++ [m, u])).of_append
    have hmap : [m, u].map lowerChar = ['m', 's'] := by
      rw [List.map_cons, List.map_singleton, (lowerChar_m m).mpr hm, (lowerChar_s u).mpr hu]
    have hsmall : ∀ c ∈ [m, u], smallRanges.holds (lowerChar c).toNat = true := by
      rw [← List.forall_mem_map (P := fun d : Char => smallRanges.holds d.toNat = true), hmap]
      decide +kernel
    rw [hafter.eq_map hsmall, hmap] at hout
    exact ⟨before, hout.symm⟩

/-- A text with at most one point is numeric exactly if the rest of it is digit characters. -/
private theorem looksNumeric_iff :
    looksNumeric s = true ↔ ∃ whole fraction, IsNumeral isDigit s whole fraction := by
  rw [looksNumeric, allDigits, Bool.and_eq_true, Bool.not_eq_true', List.isEmpty_eq_false_iff,
    List.all_eq_true]
  constructor
  · rintro ⟨hne, hall⟩
    rcases List.exists_or_eq_self_of_eraseP (· == '.') s with
      hself | ⟨point, whole, fraction, _, hpoint, rfl, herase⟩
    · rw [hself] at hne hall
      exact ⟨s, [], .inr ⟨rfl, rfl⟩, by rwa [List.append_nil], by rwa [List.append_nil]⟩
    · rw [herase] at hne hall
      exact ⟨whole, fraction, .inl (by rw [eq_of_beq hpoint]), hne, hall⟩
  · rintro ⟨whole, fraction, h⟩
    have herase : s.eraseP (· == '.') = whole ++ fraction := by
      have hnone : ∀ c ∈ whole, ¬ (c == '.') = true := fun c hc hpoint =>
        ne_of_isDigit (h.digits c (List.mem_append_left _ hc)) (by decide) (eq_of_beq hpoint)
      rcases h.written with rfl | ⟨rfl, rfl⟩
      · rw [List.eraseP_append_right _ hnone]
        rfl
      · rw [List.eraseP_of_forall_not hnone, List.append_nil]
    rw [herase]
    exact ⟨h.some, h.digits⟩

/-- A numeral begins and ends with no blank. -/
private theorem numeral_not_blank {number : List Char}
    (h : IsNumeral isDigit number whole fraction) :
    ∀ c ∈ number, isBlank c = false := by
  refine fun c hc => (h.mem c hc).elim not_isBlank_of_isDigit ?_
  rintro rfl
  decide

private theorem numeral_ne_nil {number : List Char} (h : IsNumeral isDigit number whole fraction) :
    number ≠ [] := by
  rintro rfl
  rcases h.written with hnil | ⟨hnil, rfl⟩
  · cases whole <;> cases hnil
  · exact h.some (by rw [← hnil, List.append_nil])

private theorem trim_numeral {number behind : List Char}
    (h : IsNumeral isDigit number whole fraction)
    (hbehind : ∀ c ∈ behind, isBlank c = true) : trim (number ++ behind) = number :=
  trimWith_between (List.forall_mem_nil _) hbehind
    (fun c hc => numeral_not_blank h c (List.mem_of_mem_head? hc))
    (fun c hc => numeral_not_blank h c (List.mem_of_mem_getLast? hc))

/-- Trimming comes to the numeral and its unit, between which blanks may stand. -/
private theorem trim_unit {number front between behind : List Char} {m u : Char}
    (h : IsNumeral isDigit number whole fraction) (hu : u = 's' ∨ u = 'S')
    (hfront : ∀ c ∈ front, isBlank c = true) (hbehind : ∀ c ∈ behind, isBlank c = true) :
    trim (front ++ (number ++ between ++ [m, u]) ++ behind) = number ++ between ++ [m, u] := by
  refine trimWith_between hfront hbehind (fun c hc => ?_) (fun c hc => ?_)
  · rw [List.append_assoc, List.head?_append_of_ne_nil _ (numeral_ne_nil h)] at hc
    exact numeral_not_blank h c (List.mem_of_mem_head? hc)
  · rw [List.getLast?_append_of_ne_nil _ (List.cons_ne_nil _ _)] at hc
    cases hc
    rcases hu with rfl | rfl
    · exact (by decide : isBlank 's' = false)
    · exact (by decide : isBlank 'S' = false)

private theorem dropLast_unit (r : List Char) (m u : Char) :
    (r ++ [m, u]).dropLast.dropLast = r := by
  rw [List.dropLast_append_cons]
  exact List.dropLast_concat

/-- A text is a numeral with the unit exactly if, trimmed, it ends in the unit and has the numeral
before it. -/
private theorem hasUnit_decimal_iff :
    HasUnit isDecimal s whole fraction ↔ hasUnit (trim s) = true ∧
      IsNumeral isDecimal (trim (trim s).dropLast.dropLast) whole fraction := by
  constructor
  · rintro ⟨number, front, between, behind, m, u, hnumber, hs, hfront, hbetween, hbehind, hm, hu⟩
    rw [hs, trim_unit hnumber.isDigit hu hfront hbehind, dropLast_unit,
      trim_numeral hnumber.isDigit hbetween]
    exact ⟨hasUnit_iff.mpr ⟨_, m, u, rfl, hm, hu⟩, hnumber⟩
  · rintro ⟨hunit, hnumber⟩
    obtain ⟨r, m, u, hbody, hm, hu⟩ := hasUnit_iff.mp hunit
    rw [hbody, dropLast_unit] at hnumber
    obtain ⟨front, behind, hs, hfront, hbehind⟩ := exists_trimWith isBlank s
    change s = front ++ trim s ++ behind at hs
    obtain ⟨before, between, hr, hbefore, hbetween⟩ := exists_trimWith isBlank r
    change r = before ++ trim r ++ between at hr
    refine ⟨trim r, front ++ before, between, behind, m, u, hnumber, ?_,
      List.forall_mem_append.mpr ⟨hfront, hbefore⟩, hbetween, hbehind, hm, hu⟩
    rw [hbody] at hs
    rw [hs]
    nth_rewrite 1 [hr]
    simp only [List.append_assoc]

/-- A text stands for the numeral before its unit. -/
theorem writtenMilliseconds_real_iff {s : List CodePoint} {x : Binary64} :
    writtenMilliseconds (.text s) = .ok (.real x) ↔
      ∃ whole fraction, HasUnit isDecimal (asCharacters s) whole fraction ∧
        x = .ofDecimal false (decimalsValue (whole ++ fraction)) (-(fraction.length : Int)) := by
  constructor
  · intro h
    unfold writtenMilliseconds at h
    dsimp only at h
    split at h
    · rename_i hunit
      split at h
      · rename_i hnumeric
        obtain ⟨whole, fraction, hdigits⟩ := looksNumeric_iff.mp hnumeric
        obtain ⟨y, hy, hx⟩ := map_ok h
        cases hx
        obtain ⟨hnumber, hvalue⟩ := (readReal_ok_iff hdigits).mp (mapError_ok hy)
        exact ⟨whole, fraction, hasUnit_decimal_iff.mpr ⟨hunit, hnumber⟩, hvalue⟩
      · cases h
    · cases h
  · rintro ⟨whole, fraction, hs, rfl⟩
    obtain ⟨hunit, hnumber⟩ := hasUnit_decimal_iff.mp hs
    unfold writtenMilliseconds
    simp only [hunit, looksNumeric_iff.mpr ⟨_, _, hnumber.isDigit⟩, readReal_decimals hnumber]
    rfl

end Units

section Amounts
variable {v : Value} {x : Binary64}

private theorem ofDecimal_notBelow (digits : Nat) (exponent : Int) :
    (Binary64.ofDecimal false digits exponent).ltZero = false := by
  unfold Binary64.ofDecimal
  split
  · rfl
  · split
    · rfl
    · split
      · rfl
      · exact ofRatio_notBelow _ _

private theorem milliseconds_int_iff {n : Int} :
    milliseconds (.int n) = .ok x ↔ 0 ≤ n ∧ n.natAbs < realLimit ∧ x = .ofInt n := by
  unfold milliseconds
  dsimp only
  split
  · exact iff_of_false (refuse_ne_ok _ _ _) fun h => absurd h.1 (Int.not_le.mpr ‹_›)
  · rw [← realOfInt_ok_iff]
    refine ⟨fun h => ⟨Int.not_lt.mp ‹_›, mapError_ok h⟩, fun h => ?_⟩
    rw [h.2]
    rfl

private theorem milliseconds_real_iff {y : Binary64} :
    milliseconds (.real y) = .ok x ↔ y = x ∧ x.ltZero = false := by
  unfold milliseconds
  dsimp only
  split
  · rename_i hy
    refine iff_of_false (refuse_ne_ok _ _ _) ?_
    rintro ⟨rfl, hx⟩
    exact Bool.false_ne_true (hx.symm.trans hy)
  · rename_i hy
    refine ⟨fun h => ?_, fun h => congrArg _ h.1⟩
    cases h
    exact ⟨rfl, (Bool.not_eq_true _).mp hy⟩

private theorem milliseconds_ok {number : Value} (h : milliseconds number = .ok x) :
    (∃ n, number = .int n) ∨ ∃ y, number = .real y := by
  unfold milliseconds at h
  split at h
  · exact .inl ⟨_, rfl⟩
  · exact .inr ⟨_, rfl⟩
  · exact absurd h (refuse_ne_ok _ _ _)

/-- A value is read as a number of milliseconds exactly if it stands for one. -/
theorem waitPayload_iff : waitPayload v = .ok x ↔ Amount v x := by
  constructor
  · intro h
    obtain ⟨number, hnumber, h⟩ := bind_ok h
    rcases milliseconds_ok h with ⟨n, rfl⟩ | ⟨y, rfl⟩
    · obtain ⟨hn, hlimit, rfl⟩ := milliseconds_int_iff.mp h
      rw [writtenMilliseconds_int hnumber]
      exact .integer hn hlimit
    · obtain ⟨rfl, hx⟩ := milliseconds_real_iff.mp h
      cases v with
      | text s =>
        obtain ⟨whole, fraction, hunit, rfl⟩ := writtenMilliseconds_real_iff.mp hnumber
        exact .text hunit
      | real _ =>
        cases hnumber
        exact .real hx
      | _ => cases hnumber
  · intro h
    cases h with
    | integer hn hlimit => exact milliseconds_int_iff.mpr ⟨hn, hlimit, rfl⟩
    | real hx => exact milliseconds_real_iff.mpr ⟨rfl, hx⟩
    | text hunit =>
      rw [waitPayload, writtenMilliseconds_real_iff.mpr ⟨_, _, hunit, rfl⟩]
      exact milliseconds_real_iff.mpr ⟨rfl, ofDecimal_notBelow _ _⟩

/-- The values that stand for no finite number: that which is no number, infinity, and numerals too
large for a real. -/
inductive Boundless : Value → Prop
  | nan : Boundless (.real .nan)
  | infinite : Boundless (.real (.infinite false))
  | text {s : List CodePoint} {whole fraction : List Char} :
      HasUnit isDecimal (asCharacters s) whole fraction →
      realLimit * 10 ^ fraction.length ≤ decimalsValue (whole ++ fraction) → Boundless (.text s)

/-- A number of milliseconds is finite unless its value stands for no finite number. -/
theorem Amount.isFinite_iff (h : Amount v x) : x.IsFinite ↔ ¬ Boundless v := by
  cases h with
  | integer hn hlimit =>
    rw [Binary64.isFinite_iff (Binary64.ofInt_ne_nan _), Binary64.ofInt_infinite]
    exact iff_of_true (Nat.not_le_of_lt hlimit) nofun
  | real hx =>
    cases x with
    | finite _ _ _ _ => exact iff_of_true trivial nofun
    | infinite s =>
      cases s with
      | false => exact iff_of_false id fun h => h .infinite
      | true => cases hx
    | nan => exact iff_of_false id fun h => h .nan
  | text hunit =>
    rw [Binary64.isFinite_iff (Binary64.ofDecimal_ne_nan _ _ _), not_iff_not,
      Binary64.ofDecimal_infinite]
    refine ⟨.text hunit, fun hboundless => ?_⟩
    cases hboundless with
    | text hunit' hlimit =>
      -- the two readings of the text come to one number
      have hread := waitPayload_iff.mpr (.text hunit)
      rw [waitPayload_iff.mpr (.text hunit')] at hread
      rw [← Binary64.ofDecimal_infinite false, ← Except.ok.inj hread, Binary64.ofDecimal_infinite]
      exact hlimit

end Amounts

end FeatureRun.Spec

namespace FeatureRun.Run
open FeatureRun.Text FeatureRun.Number FeatureRun.Data FeatureRun.Files FeatureRun.Spec
open FeatureRun.Browser
open scoped FeatureRun.CoreInstances

/-- A wait that is read has a number that is not below zero, and it is finite unless the value
stands for no finite number. The step makes one call, for that number; where it is none, for
zero. -/
theorem perform_wait {raw : Value} {x : Binary64}
    (h : Step.parse raw = .ok (.known (.wait x))) :
    ∃ key value, raw.entries? = some [(key, value)] ∧ Amount value x ∧ x.ltZero = false ∧
      (x.IsFinite ↔ ¬ Boundless value) ∧
      ∀ ctx w, ∃ y,
        (outcome (perform ctx (.known (.wait x))) w).2.calls =
          w.calls ++ [.waitForTimeout (.real y)] ∧
        (y.same x = true ↔ x ≠ .nan) ∧ (x = .nan → y = .zero false) := by
  obtain ⟨key, value, name, hentries, _, hstep⟩ := step_ok_iff.mp h
  have hamount : Amount value x := by
    rcases hstep with ⟨_, hknown⟩ | ⟨a, i, _, hi, hknown⟩
    · cases hknown
    · cases hknown
      have haction : a = .wait := (instruction_action hi).symm
      subst haction
      obtain ⟨y, hy, hsame⟩ := map_ok hi
      cases hsame
      exact waitPayload_iff.mp hy
  have hbelow : x.ltZero = false := step_meetsDemand h
  refine ⟨key, value, hentries, hamount, hbelow, hamount.isFinite_iff, fun ctx w => ?_⟩
  refine ⟨x.atLeastZero, (Acts.performInstruction ctx (.wait x)).calls w, ⟨?_, ?_⟩, ?_⟩
  · rintro hsame rfl
    cases hsame
  · exact atLeastZero_same hbelow
  · rintro rfl
    rfl

def twoAndHalf : Binary64 := .finite false (5 * 2 ^ (50 : Nat)) (-51) (by decide)

theorem perform_wait_written :
    Step.parse (.map [(.text "wait", .text " 2.50 Ms")]) = .ok (.known (.wait twoAndHalf)) ∧
      ∃ y, (outcome (perform { screenshots := Path.ofString "shots" } (.known (.wait twoAndHalf)))
            (faultyWorld .press ⟨true, "Timeout"⟩)).2.calls = [.waitForTimeout (.real y)] ∧
        y.same twoAndHalf = true := by
  have hread : Step.parse (.map [(.text "wait", .text " 2.50 Ms")]) =
      .ok (.known (.wait twoAndHalf)) := rfl
  obtain ⟨_, _, _, _, _, _, hcalls⟩ := perform_wait hread
  obtain ⟨y, hcall, hsame, _⟩ := hcalls { screenshots := Path.ofString "shots" }
    (faultyWorld .press ⟨true, "Timeout"⟩)
  exact ⟨hread, y, hcall, hsame.mpr nofun⟩

/-- What is no number is read as a number of milliseconds, and the step waits for no time. -/
theorem nan_awaited :
    Step.parse (.map [(.text "wait", .real .nan)]) = .ok (.known (.wait .nan)) ∧
      ¬ Binary64.nan.IsFinite ∧
      (outcome (perform { screenshots := Path.ofString "shots" } (.known (.wait .nan)))
        (faultyWorld .press ⟨true, "Timeout"⟩)).2.calls = [.waitForTimeout (.real (.zero false))] :=
  ⟨rfl, id, rfl⟩

end FeatureRun.Run
