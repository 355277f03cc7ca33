import FeatureRun.Proofs.DigitRuns

/-!
The limit that integers can pass as reals: the least size of one that is too large, and of what is
read as one.
-/
namespace FeatureRun.Number
open scoped FeatureRun.CoreInstances

/-- The least size of an integer that is too large for a real: the power 1024 of two less its power
970, which is half a step beyond the largest real. -/
def realLimit : Nat := (2 ^ (54 : Nat) - 1) * 2 ^ (970 : Nat)

/-- Powers of two move from one side of a comparison to the other. -/
private theorem shift_lt_iff {num den p q p' q' : Nat} (h : p + q' = p' + q) :
    num * 2 ^ q < den * 2 ^ p ↔ num * 2 ^ q' < den * 2 ^ p' := by
  have hleft := Nat.mul_lt_mul_right (b := num * 2 ^ q) (c := den * 2 ^ p) (Nat.two_pow_pos q')
  have hright := Nat.mul_lt_mul_right (b := num * 2 ^ q') (c := den * 2 ^ p') (Nat.two_pow_pos q)
  rw [← hleft, ← hright]
  simp only [Nat.mul_assoc, ← Nat.pow_add]
  rw [h, Nat.add_comm q q']

/-- A quotient is below the power of two behind its logarithm. -/
private theorem lt_ratioLog2 (num : Nat) {den : Nat} (hden : 0 < den) :
    num * 2 ^ (-(ratioLog2 num den + 1)).toNat < den * 2 ^ (ratioLog2 num den + 1).toNat := by
  unfold ratioLog2
  dsimp only
  split
  · have hnum : num < 2 ^ (num.log2 + 1) := Nat.lt_log2_self
    have hlog : 2 ^ den.log2 ≤ den := Nat.log2_self_le (Nat.ne_of_gt hden)
    generalize num.log2 = a at hnum ⊢
    generalize den.log2 = b at hlog ⊢
    calc num * 2 ^ (-((a : Int) - b + 1)).toNat
        < 2 ^ (a + 1) * 2 ^ (-((a : Int) - b + 1)).toNat :=
          Nat.mul_lt_mul_of_pos_right hnum (Nat.two_pow_pos _)
      _ = 2 ^ b * 2 ^ ((a : Int) - b + 1).toNat := by
          rw [← Nat.pow_add, ← Nat.pow_add]
          congr 1
          omega
      _ ≤ den * 2 ^ ((a : Int) - b + 1).toNat := Nat.mul_le_mul_right _ hlog
  · rw [Int.sub_add_cancel]
    exact Nat.lt_of_not_le ‹_›

/-- A quotient reaches the power of two of its logarithm. -/
private theorem ratioLog2_le {num : Nat} (hnum : num ≠ 0) (den : Nat) :
    den * 2 ^ (ratioLog2 num den).toNat ≤ num * 2 ^ (-ratioLog2 num den).toNat := by
  unfold ratioLog2
  dsimp only
  split
  · assumption
  · have hlog : 2 ^ num.log2 ≤ num := Nat.log2_self_le hnum
    have hden : den < 2 ^ (den.log2 + 1) := Nat.lt_log2_self
    generalize num.log2 = a at hlog ⊢
    generalize den.log2 = b at hden ⊢
    calc den * 2 ^ ((a : Int) - b - 1).toNat
        ≤ 2 ^ (b + 1) * 2 ^ ((a : Int) - b - 1).toNat :=
          Nat.mul_le_mul_right _ (Nat.le_of_lt hden)
      _ = 2 ^ a * 2 ^ (-((a : Int) - b - 1)).toNat := by
          rw [← Nat.pow_add, ← Nat.pow_add]
          congr 1
          omega
      _ ≤ num * 2 ^ (-((a : Int) - b - 1)).toNat := Nat.mul_le_mul_right _ hlog

/-- A quotient of 53 binary digits is rounded up to one more from half a unit below on. -/
private theorem roundQuotient_full {num half : Nat} (hhalf : 0 < half)
    (hlt : num < 2 ^ (53 : Nat) * (2 * half)) :
    roundQuotient num (2 * half) = 2 ^ (53 : Nat) ↔ (2 ^ (54 : Nat) - 1) * half ≤ num := by
  have hdiv := Nat.div_add_mod num (2 * half)
  have hmod := Nat.mod_lt num (show 0 < 2 * half by omega)
  have hq : num / (2 * half) < 2 ^ (53 : Nat) := Nat.div_lt_of_lt_mul (by rwa [Nat.mul_comm] at hlt)
  unfold roundQuotient
  generalize num / (2 * half) = q at hdiv hq ⊢
  generalize num % (2 * half) = r at hdiv hmod ⊢
  dsimp only
  rcases Nat.lt_or_ge q (2 ^ (53 : Nat) - 1) with hsmall | hlarge
  · have hle : 2 * half * (q + 1) ≤ 2 * half * (2 ^ (53 : Nat) - 1) :=
      Nat.mul_le_mul_left _ (by omega)
    rw [Nat.mul_add] at hle
    constructor
    · intro h
      split at h
      · omega
      · split at h
        · omega
        · split at h <;> omega
    · omega
  · have hq' : q = 2 ^ (53 : Nat) - 1 := by omega
    subst hq'
    constructor
    · intro h
      split at h
      · omega
      · omega
    · intro h
      rw [if_neg (by omega)]
      split <;> rfl

/-- A quotient between the power 1023 of two and the next one is rounded up to that exactly from the
limit on. -/
private theorem roundQuotient_top {num den : Nat} (hden : 0 < den)
    (hlt : num < den * 2 ^ (1024 : Nat)) :
    roundQuotient num (den * 2 ^ (971 : Nat)) = 2 ^ (53 : Nat) ↔ realLimit * den ≤ num := by
  have hhalf : 0 < den * 2 ^ (970 : Nat) := Nat.mul_pos hden (by decide +kernel)
  have hunit : den * 2 ^ (971 : Nat) = 2 * (den * 2 ^ (970 : Nat)) := by
    rw [Nat.mul_left_comm]
    exact congrArg (den * ·) (by decide +kernel)
  have htop : den * 2 ^ (1024 : Nat) = 2 ^ (53 : Nat) * (2 * (den * 2 ^ (970 : Nat))) := by
    rw [← hunit, Nat.mul_left_comm]
    exact congrArg (den * ·) (by decide +kernel)
  have hlim : (2 ^ (54 : Nat) - 1) * (den * 2 ^ (970 : Nat)) = realLimit * den := by
    rw [realLimit]
    generalize 2 ^ (970 : Nat) = half
    rw [Nat.mul_assoc, Nat.mul_comm den]
  rw [htop] at hlt
  rw [hunit, ← hlim]
  exact roundQuotient_full hhalf hlt

private theorem le_roundQuotient (num den : Nat) : num / den ≤ roundQuotient num den := by
  unfold roundQuotient
  dsimp only
  split
  · exact Nat.le_refl _
  · split
    · exact Nat.le_succ _
    · split
      · exact Nat.le_refl _
      · exact Nat.le_succ _

private theorem roundQuotient_le (num den : Nat) : roundQuotient num den ≤ num / den + 1 := by
  unfold roundQuotient
  dsimp only
  split
  · exact Nat.le_succ _
  · split
    · exact Nat.le_refl _
    · split
      · exact Nat.le_succ _
      · exact Nat.le_refl _

/-- What a quotient is rounded to has no more than 53 binary digits, or is the least number of 54. -/
private theorem roundQuotient_small (num : Nat) {den : Nat} (hden : 0 < den) {e : Int}
    (he : ratioLog2 num den - 52 ≤ e) :
    roundQuotient (num * 2 ^ (-e).toNat) (den * 2 ^ e.toNat) ≤ 2 ^ (53 : Nat) := by
  have hlog := lt_ratioLog2 num hden
  generalize ratioLog2 num den = log at hlog he
  have hwider : (log + 1).toNat ≤ (log + 1).toNat + (e + 52 - log).toNat := Nat.le_add_right _ _
  have hscaled : num * 2 ^ (-e).toNat < den * 2 ^ (e.toNat + 53) := by
    refine (shift_lt_iff ?_).mpr (Nat.lt_of_lt_of_le hlog
      (Nat.mul_le_mul_left den (Nat.pow_le_pow_right (by decide) hwider)))
    omega
  rw [Nat.pow_add, ← Nat.mul_assoc] at hscaled
  exact Nat.le_trans (roundQuotient_le _ _) (Nat.div_lt_of_lt_mul hscaled)

/-- A quotient keeps its first binary digit. -/
private theorem roundQuotient_large {num : Nat} (hnum : num ≠ 0) {den : Nat} (hden : 0 < den)
    {e : Int} (he : e = ratioLog2 num den - 52) :
    2 ^ (52 : Nat) ≤ roundQuotient (num * 2 ^ (-e).toNat) (den * 2 ^ e.toNat) := by
  have hlog := ratioLog2_le hnum den
  generalize ratioLog2 num den = log at hlog he
  have hscaled : den * 2 ^ (e.toNat + 52) ≤ num * 2 ^ (-e).toNat :=
    Nat.not_lt.mp fun h => Nat.not_lt.mpr hlog ((shift_lt_iff (by omega)).mp h)
  rw [Nat.pow_add, ← Nat.mul_assoc, Nat.mul_comm] at hscaled
  exact Nat.le_trans ((Nat.le_div_iff_mul_le (Nat.mul_pos hden (Nat.two_pow_pos _))).mpr hscaled)
    (le_roundQuotient _ _)

namespace Binary64

private theorem pack_infinite {negative : Bool} {m : Nat} {e : Int} (hm : m < 2 ^ (53 : Nat))
    (hfull : e = -1074 ∨ 2 ^ (52 : Nat) ≤ m) (he : -1074 ≤ e) :
    (∃ s, pack negative m e = .infinite s) ↔ 971 < e := by
  unfold pack
  split
  · rename_i hfits
    exact iff_of_false nofun (Int.not_lt.mpr (fits_iff.mp hfits).2.2.2)
  · rename_i hfits
    exact iff_of_true ⟨_, rfl⟩ (Int.not_le.mp fun hhigh =>
      hfits (fits_iff.mpr ⟨hm, hfull, he, hhigh⟩))

/-- Below the top exponent a quotient is below the limit. -/
private theorem lt_limit_of_log {num den : Nat} (hden : 0 < den) (h : ratioLog2 num den < 1023) :
    num < realLimit * den := by
  have hhigh := lt_ratioLog2 num hden
  generalize ratioLog2 num den = log at h hhigh
  have hwider : (log + 1).toNat ≤ (log + 1).toNat + (1022 - log).toNat := Nat.le_add_right _ _
  have hless := Nat.lt_of_lt_of_le hhigh
    (Nat.mul_le_mul_left den (Nat.pow_le_pow_right (by decide) hwider))
  have hpower := (@shift_lt_iff num den _ _ 1023 0 (by omega)).mp hless
  rw [Nat.pow_zero, Nat.mul_one num, Nat.mul_comm den] at hpower
  have hlim : 2 ^ (1023 : Nat) ≤ realLimit := by decide +kernel
  generalize 2 ^ (1023 : Nat) = top at hpower hlim
  exact Nat.lt_of_lt_of_le hpower (Nat.mul_le_mul_right den hlim)

/-- Above the top exponent a quotient is not below the limit. -/
private theorem limit_le_of_log {num den : Nat} (hnum : num ≠ 0) (h : 1023 < ratioLog2 num den) :
    realLimit * den ≤ num := by
  have hlow := ratioLog2_le hnum den
  generalize ratioLog2 num den = log at h hlow
  have hnone : (-log).toNat = 0 := by omega
  rw [hnone, Nat.pow_zero, Nat.mul_one, Nat.mul_comm] at hlow
  refine Nat.le_trans (Nat.mul_le_mul_right den ?_) hlow
  have hlim : realLimit ≤ 2 ^ (1024 : Nat) := by decide +kernel
  have hl : 1024 ≤ log.toNat := by omega
  generalize 1024 = top at hlim hl
  exact Nat.le_trans hlim (Nat.pow_le_pow_right (by decide) hl)

/-- At the top exponent the rounding decides. -/
private theorem roundQuotient_limit_iff {num den : Nat} (hden : 0 < den)
    (h : ratioLog2 num den = 1023) :
    roundQuotient (num * 2 ^ (-(971 : Int)).toNat) (den * 2 ^ (971 : Int).toNat) =
        2 ^ (53 : Nat) ↔ realLimit * den ≤ num := by
  have hhigh := lt_ratioLog2 num hden
  have hnone : (-(971 : Int)).toNat = 0 := by decide
  have hall : (971 : Int).toNat = 971 := by decide
  have htop : (1023 + 1 : Int).toNat = 1024 := by decide
  have hbottom : (-(1023 + 1 : Int)).toNat = 0 := by decide
  rw [h, htop, hbottom, Nat.pow_zero, Nat.mul_one num] at hhigh
  rw [hnone, hall, Nat.pow_zero, Nat.mul_one num]
  exact roundQuotient_top hden hhigh

/-- A quotient is too large for a real if its exponent is beyond the top one, or if it is rounded up
at the top exponent. -/
private theorem ofRatio_beyond (negative : Bool) {num den : Nat} (hnum : num ≠ 0) (hden : 0 < den)
    {e : Int} (he : max (-1074) (ratioLog2 num den - 52) = e) :
    (∃ s, ofRatio negative num den = .infinite s) ↔ 971 < e ∨
      e = 971 ∧ roundQuotient (num * 2 ^ (-e).toNat) (den * 2 ^ e.toNat) = 2 ^ (53 : Nat) := by
  have hsmall := roundQuotient_small num hden (e := e) (by omega)
  have hfull : e = -1074 ∨
      2 ^ (52 : Nat) ≤ roundQuotient (num * 2 ^ (-e).toNat) (den * 2 ^ e.toNat) := by
    by_cases hlow : e = -1074
    · exact .inl hlow
    · exact .inr (roundQuotient_large hnum hden (by omega))
  unfold ofRatio
  rw [if_neg hnum, he]
  dsimp only
  generalize roundQuotient (num * 2 ^ (-e).toNat) (den * 2 ^ e.toNat) = m at hsmall hfull ⊢
  split
  · rw [pack_infinite (by decide) (.inr (Nat.le_refl _)) (by omega)]
    omega
  · rw [pack_infinite (by omega) hfull (by omega)]
    omega

/-- A quotient is too large for a real exactly from the limit on. -/
theorem ofRatio_infinite (negative : Bool) (num : Nat) {den : Nat} (hden : 0 < den) :
    (∃ s, ofRatio negative num den = .infinite s) ↔ realLimit * den ≤ num := by
  by_cases hnum : num = 0
  · have hlimit : 0 < realLimit := by decide +kernel
    have hpos := Nat.mul_pos hlimit hden
    subst hnum
    constructor
    · rintro ⟨_, h⟩
      cases h
    · omega
  rw [ofRatio_beyond negative hnum hden rfl]
  have hsmall := @lt_limit_of_log num den hden
  have hlarge := @limit_le_of_log num den hnum
  have hround := @roundQuotient_limit_iff num den hden
  generalize ratioLog2 num den = log at hsmall hlarge hround ⊢
  rcases Int.lt_trichotomy log 1023 with hl | rfl | hl
  · exact iff_of_false (by omega) (Nat.not_le_of_lt (hsmall hl))
  · have hexp : max (-1074) ((1023 : Int) - 52) = 971 := by decide
    rw [hexp, ← hround rfl, or_iff_right (by decide), and_iff_right rfl]
  · exact iff_of_true (.inl (by omega)) (hlarge hl)

/-- A decimal fraction is too large for a real exactly from the limit on. -/
theorem ofDecimal_infinite (negative : Bool) (digits places : Nat) :
    (∃ s, ofDecimal negative digits (-(places : Int)) = .infinite s) ↔
      realLimit * 10 ^ places ≤ digits := by
  have hden : 0 < 10 ^ places := Nat.pow_pos (by decide)
  have hpos : 0 < realLimit * 10 ^ places := Nat.mul_pos (by decide +kernel) hden
  have hzero : ¬ ∃ s, zero negative = .infinite s := nofun
  unfold ofDecimal
  split
  · exact iff_of_false hzero (by omega)
  · rw [if_neg (by omega)]
    split
    · -- so many places are more than the digits can fill
      refine iff_of_false hzero (Nat.not_le_of_lt ?_)
      have hplaces : digits.log2 + 1 ≤ places := by omega
      calc digits < 2 ^ (digits.log2 + 1) := Nat.lt_log2_self
        _ ≤ 10 ^ (digits.log2 + 1) := Nat.pow_le_pow_left (by decide) _
        _ ≤ 10 ^ places := Nat.pow_le_pow_right (by decide) hplaces
        _ ≤ realLimit * 10 ^ places := Nat.le_mul_of_pos_left _ (by decide +kernel)
    · have hratio := ofRatio_infinite negative digits hden
      have hnone : (-(places : Int)).toNat = 0 := by omega
      rwa [hnone, Nat.pow_zero, Nat.mul_one, Int.neg_neg, Int.toNat_natCast]

theorem ofInt_infinite (n : Int) : (∃ s, ofInt n = .infinite s) ↔ realLimit ≤ n.natAbs := by
  have hratio := ofRatio_infinite (n < 0) n.natAbs Nat.one_pos
  rw [Nat.mul_one] at hratio
  rw [ofInt, ofScaled]
  simpa only [Int.toNat_zero, Int.neg_zero, Nat.pow_zero, Nat.mul_one] using hratio

private theorem ofRatio_ne_nan (negative : Bool) (num den : Nat) :
    ofRatio negative num den ≠ .nan := by
  have hpack (m : Nat) (e : Int) : pack negative m e ≠ .nan := by
    unfold pack
    split <;> nofun
  unfold ofRatio
  dsimp only
  split
  · nofun
  · split <;> exact hpack _ _

theorem ofDecimal_ne_nan (negative : Bool) (digits : Nat) (exponent : Int) :
    ofDecimal negative digits exponent ≠ .nan := by
  unfold ofDecimal
  split
  · nofun
  · split
    · nofun
    · split
      · nofun
      · exact ofRatio_ne_nan _ _ _

theorem ofInt_ne_nan (n : Int) : ofInt n ≠ .nan := ofRatio_ne_nan _ _ _

def IsFinite : Binary64 → Prop
  | .finite _ _ _ _ => True
  | _ => False

theorem isFinite_iff {x : Binary64} (hx : x ≠ .nan) : x.IsFinite ↔ ¬ ∃ s, x = .infinite s := by
  cases x with
  | finite _ _ _ _ => simp [IsFinite]
  | infinite _ => simp [IsFinite]
  | nan => exact absurd rfl hx

end Binary64

/-- An integer is too large for a real exactly from the limit on. -/
theorem realOfInt_error_iff (n : Int) {e : ConversionError} :
    realOfInt n = .error e ↔ realLimit ≤ n.natAbs ∧ e = .integerTooLarge := by
  rw [← Binary64.ofInt_infinite, realOfInt]
  cases Binary64.ofInt n with
  | infinite s =>
    constructor
    · intro h
      cases h
      exact ⟨⟨s, rfl⟩, rfl⟩
    · rintro ⟨_, rfl⟩
      rfl
  | finite _ _ _ _ => simp
  | nan => simp

/-- Below the limit an integer has its number. -/
theorem realOfInt_ok_iff (n : Int) {x : Binary64} :
    realOfInt n = .ok x ↔ n.natAbs < realLimit ∧ x = .ofInt n := by
  rw [← Nat.not_le, ← Binary64.ofInt_infinite, realOfInt]
  cases Binary64.ofInt n with
  | infinite s => simp
  | finite _ _ _ _ => simp [eq_comm]
  | nan => simp [eq_comm]

end FeatureRun.Number
