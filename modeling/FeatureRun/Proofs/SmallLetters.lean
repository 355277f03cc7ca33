import FeatureRun.Proofs.DigitRuns
import FeatureRun.Text.LowerCase

/-!
What becomes a small letter. Digits, blanks and the small letters of this script, but for the k that
the sign of kelvins becomes too, come from themselves and from capitals of this script alone; and but
for that sign and the dotted capital, no foreign character becomes one of this script. Main
statements: `Lowers.of_append_small`, `lowerChar_foreign`.
-/
namespace FeatureRun.Text

/-- The characters of a stretch, and the small letters that they become. -/
def CaseStretch.ranges (r : CaseStretch) : Ranges :=
  [(r.first, r.last), ((r.first + r.shift).toNat, (r.last + r.shift).toNat)]

/-- No foreign character in the ranges is changed, and none is changed into one of them. -/
def Ranges.uncased (rs : Ranges) : Bool :=
  caseTable.all fun r => r.last.blt 0x80 || r.ranges.apart rs

/-- Digits, blanks, the sign of multiplication, and the small letters of this script without the
k. -/
def smallRanges : Ranges :=
  digitRanges ++ (blankRanges ++ [(0x61, 0x6A), (0x6C, 0x7A), (0xD7, 0xD7)])

private theorem smallRanges_uncased : smallRanges.uncased = true := by decide +kernel

section Characters
variable {c : Char}

private theorem toNat_ofNat (n : Nat) : (Char.ofNat n).toNat = n ∨ (Char.ofNat n).toNat = 0 := by
  by_cases h : n.isValidChar
  · exact .inl (by rw [Char.ofNat, dif_pos h]; rfl)
  · exact .inr (by rw [Char.ofNat, dif_neg h]; rfl)

private theorem CaseStretch.ranges_hold {r : CaseStretch} {n : Nat} (h : r.holds n = true) :
    r.ranges.holds n = true ∧ r.ranges.holds (n + r.shift).toNat = true := by
  simp only [holds, Bool.and_eq_true, decide_eq_true_eq] at h
  simp only [ranges, Ranges.holds_iff, List.mem_cons, List.not_mem_nil, or_false]
  exact ⟨⟨_, .inl rfl, h.1⟩, ⟨_, .inr rfl, by omega⟩⟩

/-- A foreign character is in the ranges if and only if its small form is, and then it is that. -/
private theorem lowerChar_uncased {rs : Ranges} (hrs : rs.uncased = true)
    (hzero : rs.holds 0 = false)
    (hc : 0x80 ≤ c.toNat)
    (h : rs.holds c.toNat = true ∨ rs.holds (lowerChar c).toNat = true) : lowerChar c = c := by
  unfold lowerChar at h ⊢
  rw [if_neg (Nat.not_lt_of_le hc)] at h ⊢
  split at h
  · rename_i r hr
    have hholds := List.find?_some hr
    have hlast : ¬ r.last < 0x80 := by
      simp only [CaseStretch.holds, Bool.and_eq_true, decide_eq_true_eq] at hholds
      omega
    have hapart := List.all_eq_true.mp hrs r (List.mem_of_find?_eq_some hr)
    rw [Bool.or_eq_true, Nat.blt_eq] at hapart
    have hnone {n : Nat} := Ranges.not_holds_of_apart (n := n) (hapart.resolve_left hlast)
    obtain ⟨hown, hsmall⟩ := CaseStretch.ranges_hold hholds
    rcases h with h | h
    · rw [hnone hown] at h
      cases h
    · rcases toNat_ofNat (c.toNat + r.shift).toNat with hn | hn
      · rw [hn, hnone hsmall] at h
        cases h
      · rw [hn, hzero] at h
        cases h
  · rfl

private theorem smallRanges_zero : smallRanges.holds 0 = false := by decide +kernel

/-- Characters of the ranges are small. -/
theorem lowerChar_small (h : smallRanges.holds c.toNat = true) : lowerChar c = c := by
  rcases Nat.lt_or_ge c.toNat 0x80 with hc | hc
  · rw [lowerChar, if_pos hc]
    refine (toLower_cases c).resolve_right fun ⟨hlow, hhigh, _⟩ => ?_
    have hnone := @Ranges.not_holds_of_apart smallRanges [(0x41, 0x5A)] (by decide +kernel) _ h
    rw [Ranges.holds_iff.mpr ⟨(0x41, 0x5A), List.mem_cons_self, hlow, hhigh⟩] at hnone
    cases hnone
  · exact lowerChar_uncased smallRanges_uncased smallRanges_zero hc (.inl h)

/-- A character of the ranges comes from itself, or from its capital in this script. -/
theorem eq_or_capital (h : smallRanges.holds (lowerChar c).toNat = true) :
    lowerChar c = c ∨ 0x41 ≤ c.toNat ∧ c.toNat ≤ 0x5A ∧ (lowerChar c).toNat = c.toNat + 0x20 := by
  rcases Nat.lt_or_ge c.toNat 0x80 with hc | hc
  · rw [lowerChar, if_pos hc]
    exact toLower_cases c
  · exact .inl (lowerChar_uncased smallRanges_uncased smallRanges_zero hc (.inr h))

/-- A small letter of the ranges has two forms. -/
theorem lowerChar_eq_iff {small capital : Char} (hsmall : smallRanges.holds small.toNat = true)
    (hcapital : lowerChar capital = small) (hcode : capital.toNat + 0x20 = small.toNat) :
    lowerChar c = small ↔ c = small ∨ c = capital := by
  constructor
  · rintro rfl
    rcases eq_or_capital hsmall with hc | ⟨_, _, hc⟩
    · exact .inl hc.symm
    · exact .inr (Char.toNat_inj.mp (Nat.add_right_cancel (hc.symm.trans hcode.symm)))
  · rintro (rfl | rfl)
    · exact lowerChar_small hsmall
    · exact hcapital

/-- The stretch is of this script, is the sign of kelvins, or becomes foreign letters. -/
def CaseStretch.staysForeign (r : CaseStretch) : Bool :=
  r.last.blt 0x80 || r.first == 0x212A && r.last == 0x212A || 0x80 ≤ r.first + r.shift

private theorem caseTable_staysForeign : caseTable.all (·.staysForeign) = true := by decide +kernel

/-- A foreign character becomes none of this script, but for the sign of kelvins. Zero stands for a
code that is no character. -/
theorem lowerChar_foreign (hc : 0x80 ≤ c.toNat) (hkelvin : c ≠ '\u212A') :
    0x80 ≤ (lowerChar c).toNat ∨ (lowerChar c).toNat = 0 := by
  rw [lowerChar, if_neg (Nat.not_lt_of_le hc)]
  split
  · rename_i r hr
    have hholds := List.find?_some hr
    simp only [CaseStretch.holds, Bool.and_eq_true, decide_eq_true_eq] at hholds
    have hstays := List.all_eq_true.mp caseTable_staysForeign r (List.mem_of_find?_eq_some hr)
    simp only [CaseStretch.staysForeign, Bool.or_eq_true, Bool.and_eq_true, Nat.blt_eq, beq_iff_eq,
      decide_eq_true_eq] at hstays
    have hne : c.toNat ≠ 0x212A := fun he => hkelvin (Char.toNat_inj.mp he)
    rcases toNat_ofNat (c.toNat + r.shift).toNat with hn | hn
    · left
      omega
    · exact .inr hn
  · exact .inl hc

theorem toNat_lt_of_toLower (h : c.toLower.toNat < 0x80) : c.toNat < 0x80 := by
  rcases toLower_cases c with hc | ⟨_, hhigh, _⟩
  · rwa [hc] at h
  · omega

/-- What holds of the characters of this script is decided along them. -/
theorem forall_plain {P : Char → Prop} (h : ∀ n < 0x80, P (Char.ofNat n)) (hc : c.toNat < 0x80) :
    P c :=
  Char.ofNat_toNat c ▸ h c.toNat hc

end Characters

/-- The text in small letters, with some small letter for every capital sigma. -/
inductive Lowers : List Char → List Char → Prop
  | nil : Lowers [] []
  | sigma {s out : List Char} (final : Bool) :
      Lowers s out → Lowers ('Σ' :: s) ((if final then 'ς' else 'σ') :: out)
  | dotted {s out : List Char} : Lowers s out → Lowers ('İ' :: s) ('i' :: '\u0307' :: out)
  | other {c : Char} {s out : List Char} :
      c ≠ 'Σ' → c ≠ 'İ' → Lowers s out → Lowers (c :: s) (lowerChar c :: out)

theorem lowers_lowerAfter (before s : List Char) : Lowers s (lowerAfter before s) := by
  induction s generalizing before with
  | nil => exact .nil
  | cons c s ih =>
    rw [lowerAfter]
    split
    · rename_i hc
      subst hc
      exact .sigma _ (ih _)
    · split
      · rename_i hc
        subst hc
        exact .dotted (ih _)
      · exact .other ‹_› ‹_› (ih _)

namespace Lowers
variable {s t out : List Char}

theorem eq_nil (h : Lowers s []) : s = [] := by
  cases h
  rfl

private theorem not_mem_small (ht : ∀ d ∈ t, smallRanges.holds d.toNat = true) {d : Char}
    (hd : smallRanges.holds d.toNat = false) : d ∉ t := by
  intro hmem
  rw [ht d hmem] at hd
  cases hd

/-- What ends in characters of the ranges comes from a text that ends in as many characters. -/
theorem of_append_small (h : Lowers s (out ++ t))
    (ht : ∀ d ∈ t, smallRanges.holds d.toNat = true) :
    ∃ r u, s = r ++ u ∧ Lowers r out ∧ t = u.map lowerChar := by
  generalize hall : out ++ t = all at h
  induction h generalizing out t with
  | nil =>
    obtain ⟨rfl, rfl⟩ := List.append_eq_nil_iff.mp hall
    exact ⟨[], [], rfl, .nil, rfl⟩
  | sigma final _ ih =>
    rcases List.append_eq_cons_iff.mp hall with ⟨rfl, rfl⟩ | ⟨out', rfl, hrest⟩
    · refine absurd List.mem_cons_self (not_mem_small ht ?_)
      cases final <;> decide +kernel
    · obtain ⟨r, u, rfl, hr, hu⟩ := ih ht hrest.symm
      exact ⟨'Σ' :: r, u, rfl, .sigma final hr, hu⟩
  | dotted _ ih =>
    have hdot : '\u0307' ∉ t := not_mem_small ht (by decide +kernel)
    rcases List.append_eq_cons_iff.mp hall with ⟨rfl, rfl⟩ | ⟨out', rfl, hrest⟩
    · exact absurd (List.mem_cons_of_mem _ List.mem_cons_self) hdot
    · rcases List.append_eq_cons_iff.mp hrest.symm with ⟨rfl, rfl⟩ | ⟨out'', rfl, hlast⟩
      · exact absurd List.mem_cons_self hdot
      · obtain ⟨r, u, rfl, hr, hu⟩ := ih ht hlast.symm
        exact ⟨'İ' :: r, u, rfl, .dotted hr, hu⟩
  | @other c s out' hsigma hdotted _ ih =>
    rcases List.append_eq_cons_iff.mp hall with ⟨rfl, rfl⟩ | ⟨out'', rfl, hrest⟩
    · have hnone : [] ++ out' = out' := rfl
      obtain ⟨r, u, rfl, hr, rfl⟩ := ih (List.forall_mem_cons.mp ht).2 hnone
      rw [hr.eq_nil, List.nil_append]
      exact ⟨[], c :: u, rfl, .nil, rfl⟩
    · obtain ⟨r, u, rfl, hr, hu⟩ := ih ht hrest.symm
      exact ⟨c :: r, u, rfl, .other hsigma hdotted hr, hu⟩

/-- What comes behind is lowered behind. -/
theorem of_append {r u : List Char} (h : Lowers (r ++ u) out) :
    ∃ before after, out = before ++ after ∧ Lowers r before ∧ Lowers u after := by
  generalize hall : r ++ u = all at h
  induction h generalizing r with
  | nil =>
    obtain ⟨rfl, rfl⟩ := List.append_eq_nil_iff.mp hall
    exact ⟨[], [], rfl, .nil, .nil⟩
  | sigma final h ih =>
    rcases List.append_eq_cons_iff.mp hall with ⟨rfl, rfl⟩ | ⟨r', rfl, hrest⟩
    · exact ⟨[], _, rfl, .nil, .sigma final h⟩
    · obtain ⟨before, after, rfl, hr, hu⟩ := ih hrest.symm
      exact ⟨_ :: before, after, rfl, .sigma final hr, hu⟩
  | dotted h ih =>
    rcases List.append_eq_cons_iff.mp hall with ⟨rfl, rfl⟩ | ⟨r', rfl, hrest⟩
    · exact ⟨[], _, rfl, .nil, .dotted h⟩
    · obtain ⟨before, after, rfl, hr, hu⟩ := ih hrest.symm
      exact ⟨_ :: _ :: before, after, rfl, .dotted hr, hu⟩
  | other hsigma hdotted h ih =>
    rcases List.append_eq_cons_iff.mp hall with ⟨rfl, rfl⟩ | ⟨r', rfl, hrest⟩
    · exact ⟨[], _, rfl, .nil, .other hsigma hdotted h⟩
    · obtain ⟨before, after, rfl, hr, hu⟩ := ih hrest.symm
      exact ⟨_ :: before, after, rfl, .other hsigma hdotted hr, hu⟩

/-- Where every character comes to one of the ranges, each is changed on its own. -/
theorem eq_map (h : Lowers s out) (hs : ∀ c ∈ s, smallRanges.holds (lowerChar c).toNat = true) :
    out = s.map lowerChar := by
  have hsmall {c : Char} {r : List Char} (hr : ∀ x ∈ c :: r,
      smallRanges.holds (lowerChar x).toNat = true) := List.forall_mem_cons.mp hr
  induction h with
  | nil => rfl
  | sigma _ _ _ => exact absurd (hsmall hs).1 (by decide +kernel)
  | dotted _ _ => exact absurd (hsmall hs).1 (by decide +kernel)
  | other _ _ _ ih => rw [List.map_cons, ih (hsmall hs).2]

/-- What begins with no small i comes from a text that begins with no dotted capital. -/
theorem of_append_out (h : Lowers s (out ++ t)) (hi : 'i' ∉ out) :
    ∃ r u, s = r ++ u ∧ Lowers r out ∧ Lowers u t := by
  induction out generalizing s with
  | nil => exact ⟨[], s, rfl, .nil, h⟩
  | cons d out ih =>
    have hrest := List.not_mem_of_not_mem_cons hi
    rw [List.cons_append] at h
    generalize hall : d :: (out ++ t) = all at h
    cases h with
    | nil => cases hall
    | sigma final h =>
      cases hall
      obtain ⟨r, u, rfl, hr, hu⟩ := ih h hrest
      exact ⟨'Σ' :: r, u, rfl, .sigma final hr, hu⟩
    | dotted h =>
      obtain ⟨rfl, _⟩ := List.cons.inj hall
      exact absurd List.mem_cons_self hi
    | other hsigma hdotted h =>
      cases hall
      obtain ⟨r, u, rfl, hr, hu⟩ := ih h hrest
      exact ⟨_ :: r, u, rfl, .other hsigma hdotted hr, hu⟩

/-- In this script each letter is changed on its own. -/
theorem eq_map_toLower (h : Lowers s out) (hs : ∀ c ∈ s, c.toNat < 0x80) :
    out = s.map Char.toLower := by
  induction h with
  | nil => rfl
  | sigma _ _ _ => exact absurd (hs 'Σ' List.mem_cons_self) (by decide)
  | dotted _ _ => exact absurd (hs 'İ' List.mem_cons_self) (by decide)
  | other _ _ _ ih =>
    obtain ⟨hc, hs⟩ := List.forall_mem_cons.mp hs
    rw [List.map_cons, ← ih hs, lowerChar, if_pos hc]

end Lowers

end FeatureRun.Text
