import FeatureRun.Proofs.SmallLetters
import FeatureRun.Run.Screenshot

/-!
Names of the pictures that steps take. A name is made of plain characters and is its own name; it
has something in front of the suffix unless nothing but the suffix is legible in the text. Main
statement: `screenshotFileName_stem`.
-/
namespace FeatureRun.Run
open FeatureRun.Text
open scoped FeatureRun.CoreInstances

/-- What leaves more than a low line in the name of a picture: letters and digits of this script,
points, hyphens and blanks, and the two foreign letters with small forms of this script. -/
def isLegible (c : Char) : Bool :=
  c.isAlphanum || c == '.' || c == '-' || isBlank c || c == 'İ' || c == '\u212A'

/-- The text is the word in either case, with nothing legible around it. -/
def ComesTo (s word : List Char) : Prop :=
  ∃ front core behind, s = front ++ core ++ behind ∧ core.map Char.toLower = word ∧
    ∀ c ∈ front ++ behind, isLegible c = false

/-- What is taken off the ends of a text for a name: low lines, and what they stand for. -/
def isDropped (c : Char) : Bool := comesToMark (fun c => !isPlainNameChar c) '_' c

def isSuffixChar (c : Char) : Bool := imageSuffix.contains c

section Characters
variable {c : Char}

private theorem isAlphanum_lt (h : c.isAlphanum = true) : c.toNat < 0x80 := by
  have hbelow {high : Char} (hc : c ≤ high) (hhigh : high.toNat < 0x80) : c.toNat < 0x80 :=
    Nat.lt_of_le_of_lt hc hhigh
  rcases (Bool.or_eq_true _ _).mp h with hletter | hdigit
  · rcases (Bool.or_eq_true _ _).mp hletter with hcapital | hsmall
    · exact hbelow (of_decide_eq_true hcapital).2 (by decide)
    · exact hbelow (of_decide_eq_true ((Bool.and_eq_true _ _).mp hsmall).2) (by decide)
  · exact hbelow (of_decide_eq_true ((Bool.and_eq_true _ _).mp hdigit).2) (by decide)

private theorem isPlainNameChar_lt (h : isPlainNameChar c = true) :
    0 < c.toNat ∧ c.toNat < 0x80 := by
  have hrange {low high : Char} (hc : (decide (low ≤ c) && decide (c ≤ high)) = true)
      (hlow : 0 < low.toNat) (hhigh : high.toNat < 0x80) : 0 < c.toNat ∧ c.toNat < 0x80 := by
    have hle := ((Bool.and_eq_true _ _).mp hc).imp of_decide_eq_true of_decide_eq_true
    exact ⟨Nat.lt_of_lt_of_le hlow hle.1, Nat.lt_of_le_of_lt hle.2 hhigh⟩
  simp only [isPlainNameChar, Bool.or_eq_true, beq_iff_eq] at h
  rcases h with (((h | h) | rfl) | rfl) | rfl
  · exact hrange h (by decide) (by decide)
  · exact hrange h (by decide) (by decide)
  · decide
  · decide
  · decide

/-- Characters of a name are no blanks, and they are small. -/
private theorem isPlainNameChar_small (h : isPlainNameChar c = true) :
    isBlank c = false ∧ c.toLower = c :=
  forall_plain (P := fun c => isPlainNameChar c = true → isBlank c = false ∧ c.toLower = c)
    (by decide) (isPlainNameChar_lt h).2 h

private theorem isSuffixChar_plain (h : isSuffixChar c = true) :
    isPlainNameChar c = true ∧ isDropped c = false ∧ c ≠ 'i' := by
  have hall : ∀ c ∈ imageSuffix, isPlainNameChar c = true ∧ isDropped c = false ∧ c ≠ 'i' := by
    decide
  exact hall c (List.contains_iff_mem.mp h)

/-- A character that becomes one of the suffix is of this script, no hyphen and no blank. -/
private theorem isSuffixChar_toLower (h : isSuffixChar c.toLower = true) :
    c.toNat < 0x80 ∧ c ≠ '-' ∧ isBlank c = false := by
  have hlow := toNat_lt_of_toLower (isPlainNameChar_lt (isSuffixChar_plain h).1).2
  exact ⟨hlow, forall_plain
    (P := fun c => isSuffixChar c.toLower = true → c ≠ '-' ∧ isBlank c = false) (by decide) hlow h⟩

private theorem not_isLegible (h : isLegible c = false) : c ≠ '-' ∧ isBlank c = false := by
  simp only [isLegible, Bool.or_eq_false_iff, beq_eq_false_iff_ne] at h
  exact ⟨h.1.1.1.2, h.1.1.2⟩

/-- No other foreign character is legible. -/
private theorem not_isLegible_foreign (hc : 0x80 ≤ c.toNat) (hblank : isBlank c = false)
    (hdotted : c ≠ 'İ') (hkelvin : c ≠ '\u212A') : isLegible c = false := by
  have hne {x : Char} (hx : x.toNat < 0x80) : c ≠ x := fun he =>
    Nat.not_lt_of_le hc (he ▸ hx)
  have halphanum : c.isAlphanum = false := by
    by_contra h
    exact Nat.not_lt_of_le hc (isAlphanum_lt ((Bool.not_eq_false _).mp h))
  simp only [isLegible, halphanum, hblank, Bool.or_eq_false_iff, beq_eq_false_iff_ne]
  exact ⟨⟨⟨⟨⟨trivial, hne (by decide)⟩, hne (by decide)⟩, trivial⟩, hdotted⟩, hkelvin⟩

/-- A character is legible exactly if its small form is not dropped. -/
private theorem isDropped_lowerChar (hblank : isBlank c = false) (hdotted : c ≠ 'İ') :
    isDropped (lowerChar c) = !isLegible c := by
  rcases Nat.lt_or_ge c.toNat 0x80 with hc | hc
  · exact forall_plain
      (P := fun c => isBlank c = false → isDropped (lowerChar c) = !isLegible c)
      (by decide +kernel) hc hblank
  · by_cases hkelvin : c = '\u212A'
    · rw [hkelvin]
      decide +kernel
    · have hplain : isPlainNameChar (lowerChar c) = false := by
        by_contra hplain
        have hlow := isPlainNameChar_lt ((Bool.not_eq_false _).mp hplain)
        have hhigh := lowerChar_foreign hc hkelvin
        omega
      rw [isDropped, comesToMark, hplain, not_isLegible_foreign hc hblank hdotted hkelvin]
      rfl

end Characters

section Words
variable {s out core word : List Char}

/-- The small form of a text without blanks is dropped exactly if nothing in the text is legible. -/
private theorem forall_isDropped_iff (h : Lowers s out) (hblank : ∀ c ∈ s, isBlank c = false) :
    (∀ d ∈ out, isDropped d = true) ↔ ∀ c ∈ s, isLegible c = false := by
  induction h with
  | nil => simp
  | sigma final _ ih =>
    have hs := ih (List.forall_mem_cons.mp hblank).2
    have hsmall : isDropped (if final then 'ς' else 'σ') = true := by cases final <;> decide
    have hcapital : isLegible 'Σ' = false := by decide
    simp only [List.forall_mem_cons, hs, hsmall, hcapital]
  | dotted _ _ =>
    refine iff_of_false (fun hall => ?_) fun hall => ?_
    · exact absurd (hall 'i' List.mem_cons_self) (by decide)
    · exact absurd (hall 'İ' List.mem_cons_self) (by decide)
  | other _ hdotted _ ih =>
    obtain ⟨hc, hs⟩ := List.forall_mem_cons.mp hblank
    simp only [List.forall_mem_cons, ih hs, isDropped_lowerChar hc hdotted, Bool.not_eq_true']

variable (hword : ∀ c ∈ word, isSuffixChar c = true)
include hword

/-- Characters of the suffix come from this script. -/
private theorem toNat_lt_of_lowers (h : Lowers s word) : ∀ c ∈ s, c.toNat < 0x80 := by
  induction h with
  | nil => exact List.forall_mem_nil _
  | sigma final _ _ =>
    refine absurd (List.forall_mem_cons.mp hword).1 ?_
    cases final <;> decide
  | dotted _ _ => exact absurd (hword 'i' List.mem_cons_self) (by decide)
  | @other c _ _ _ _ _ ih =>
    obtain ⟨hc, hrest⟩ := List.forall_mem_cons.mp hword
    refine List.forall_mem_cons.mpr ⟨?_, ih hrest⟩
    by_contra hforeign
    have hkelvin : c ≠ '\u212A' := by
      rintro rfl
      exact absurd hc (by decide +kernel)
    have hlow := isPlainNameChar_lt (isSuffixChar_plain hc).1
    have hhigh := lowerChar_foreign (Nat.le_of_not_lt hforeign) hkelvin
    omega

private theorem core_cases (h : core.map Char.toLower = word) :
    ∀ c ∈ core, c.toNat < 0x80 ∧ c ≠ '-' ∧ isBlank c = false := fun _ hc =>
  isSuffixChar_toLower (hword _ (h ▸ List.mem_map_of_mem hc))

private theorem ComesTo.noHyphen (h : ComesTo s word) : ∀ c ∈ s, c ≠ '-' ∧ isBlank c = false := by
  obtain ⟨front, core, behind, rfl, hcore, hrest⟩ := h
  obtain ⟨hfront, hbehind⟩ := List.forall_mem_append.mp hrest
  refine List.forall_mem_append.mpr ⟨List.forall_mem_append.mpr ⟨?_, ?_⟩, ?_⟩
  · exact fun c hc => not_isLegible (hfront c hc)
  · exact fun c hc => (core_cases hword hcore c hc).2
  · exact fun c hc => not_isLegible (hbehind c hc)

/-- A word is left of the small form of a text without blanks exactly if the text comes to it. -/
private theorem trimWith_lowerList_iff (hblank : ∀ c ∈ s, isBlank c = false) :
    trimWith isDropped (lowerList s) = word ↔ ComesTo s word := by
  constructor
  · intro h
    obtain ⟨before, after, hout, hbefore, hafter⟩ := exists_trimWith isDropped (lowerList s)
    rw [h, List.append_assoc] at hout
    have hlowers : Lowers s (before ++ (word ++ after)) := hout ▸ lowers_lowerAfter [] s
    -- Neither part has an i, so no dotted capital stands across the seams.
    have hi : 'i' ∉ before := fun hmem => absurd (hbefore _ hmem) (by decide)
    have hi' : 'i' ∉ word := fun hmem => (isSuffixChar_plain (hword _ hmem)).2.2 rfl
    obtain ⟨front, rest, rfl, hfront, hrest⟩ := hlowers.of_append_out hi
    obtain ⟨core, behind, rfl, hcore, hbehind⟩ := hrest.of_append_out hi'
    obtain ⟨hfront', hrest'⟩ := List.forall_mem_append.mp hblank
    have hbehind' := (List.forall_mem_append.mp hrest').2
    exact ⟨front, core, behind, (List.append_assoc _ _ _).symm,
      (hcore.eq_map_toLower (toNat_lt_of_lowers hword hcore)).symm,
      List.forall_mem_append.mpr ⟨(forall_isDropped_iff hfront hfront').mp hbefore,
        (forall_isDropped_iff hbehind hbehind').mp hafter⟩⟩
  · rintro ⟨front, core, behind, rfl, hcore, hrest⟩
    obtain ⟨hfront, hbehind⟩ := List.forall_mem_append.mp hrest
    obtain ⟨hblank', hblank''⟩ := List.forall_mem_append.mp hblank
    obtain ⟨first, after, hout, hfirst, hafter⟩ :=
      (lowers_lowerAfter [] (front ++ core ++ behind)).of_append
    obtain ⟨before, middle, rfl, hbefore, hmiddle⟩ := hfirst.of_append
    have hmiddle' : middle = word :=
      (hmiddle.eq_map_toLower fun c hc => (core_cases hword hcore c hc).1).trans hcore
    rw [lowerList, hout, hmiddle']
    refine trimWith_between ?_ ?_ ?_ ?_
    · exact (forall_isDropped_iff hbefore (List.forall_mem_append.mp hblank').1).mpr hfront
    · exact (forall_isDropped_iff hafter hblank'').mpr hbehind
    · exact fun c hc => (isSuffixChar_plain (hword c (List.mem_of_mem_head? hc))).2.1
    · exact fun c hc => (isSuffixChar_plain (hword c (List.mem_of_mem_getLast? hc))).2.1

end Words

section Stems

def usablePart (s : List Char) : List Char :=
  trimWith (· == '_') (squeeze (fun c => !isPlainNameChar c) '_' (hyphenated s))

private theorem screenshotStem_eq (s : List Char) :
    screenshotStem s = if (usablePart s).isEmpty then "screenshot".toList else usablePart s := rfl

private theorem usablePart_eq_iff {s word : List Char} (hword : ∀ c ∈ word, isSuffixChar c = true) :
    usablePart s = word ↔ ComesTo (trim s) word := by
  have hsqueezed : ∀ c ∈ squeeze isBlank '-' (trim s), isBlank c = false := by
    intro c hc
    rcases mem_squeezeAfter hc with rfl | ⟨_, h⟩
    · decide
    · exact h
  have hstays : ∀ c ∈ word, comesToMark (fun c => !isPlainNameChar c) '_' c = false :=
    fun c hc => (isSuffixChar_plain (hword c hc)).2.1
  rw [usablePart, trimWith_squeeze_eq_iff hstays]
  change trimWith isDropped (lowerList (squeeze isBlank '-' (trim s))) = word ↔ _
  rw [trimWith_lowerList_iff hword hsqueezed]
  -- No hyphen is in a text that comes to the word, so none stands for blanks.
  constructor
  · intro h
    have hnone := none_of_mark_not_mem fun hmem => (h.noHyphen hword _ hmem).1 rfl
    rwa [squeeze, squeezeAfter_of_none hnone] at h
  · intro h
    rwa [squeeze, squeezeAfter_of_none fun c hc => (h.noHyphen hword c hc).2]

private theorem screenshotStem_ne_nil (s : List Char) : screenshotStem s ≠ [] := by
  rw [screenshotStem_eq]
  split
  · decide
  · rename_i hsome
    exact mt List.isEmpty_iff.mpr hsome

private theorem screenshotStem_plain (s : List Char) :
    ∀ c ∈ screenshotStem s, isPlainNameChar c = true := by
  rw [screenshotStem_eq]
  split
  · decide
  · intro c hc
    rcases mem_squeezeAfter (mem_trimWith hc) with rfl | ⟨_, h⟩
    · decide
    · rwa [Bool.not_eq_false'] at h

private theorem screenshotStem_head? (s : List Char) : ∀ c ∈ (screenshotStem s).head?, c ≠ '_' := by
  rw [screenshotStem_eq]
  split
  · intro c hc
    cases hc
    decide
  · exact fun c hc => beq_eq_false_iff_ne.mp (head?_trimWith _ _ c hc)

private theorem screenshotStem_eq_suffix_iff (s : List Char) :
    screenshotStem s = imageSuffix ↔ ComesTo (trim s) imageSuffix := by
  rw [← usablePart_eq_iff (by decide), screenshotStem_eq]
  split
  · rename_i hnone
    rw [List.isEmpty_iff.mp hnone]
    decide
  · rfl

end Stems

section Names

/-- The suffix is put behind a stem that does not end in it. -/
private theorem screenshotFileName_cases (name : String) :
    (∃ stem, screenshotStem name.toList = stem ++ imageSuffix ∧
        screenshotFileName name = String.ofList stem ++ ".png") ∨
      ¬ imageSuffix <:+ screenshotStem name.toList ∧
        screenshotFileName name = String.ofList (screenshotStem name.toList) ++ ".png" := by
  unfold screenshotFileName
  dsimp only
  split
  · rename_i h
    obtain ⟨stem, hstem⟩ := List.isSuffixOf_iff_suffix.mp h
    exact .inl ⟨stem, hstem.symm, by rw [← hstem, String.ofList_append]; rfl⟩
  · rename_i h
    exact .inr ⟨mt List.isSuffixOf_iff_suffix.mpr h, by rw [String.ofList_append]; rfl⟩

private theorem exists_stem (name : String) :
    ∃ stem, screenshotFileName name = stem ++ ".png" ∧
      (∀ c ∈ stem.toList, isPlainNameChar c = true) ∧ (∀ c ∈ stem.toList.head?, c ≠ '_') ∧
      (stem = "" ↔ screenshotStem name.toList = imageSuffix) := by
  have hplain := screenshotStem_plain name.toList
  have hfirst := screenshotStem_head? name.toList
  rcases screenshotFileName_cases name with ⟨stem, hstem, hname⟩ | ⟨hnone, hname⟩
  · rw [hstem] at hplain hfirst
    refine ⟨String.ofList stem, hname, ?_, ?_, ?_⟩
    · rw [String.toList_ofList]
      exact (List.forall_mem_append.mp hplain).1
    · rw [String.toList_ofList]
      exact fun c hc => hfirst c (List.mem_head?_append_of_mem_head? hc)
    · rw [hstem, ← String.toList_eq_nil_iff, String.toList_ofList, List.append_left_eq_self]
  · refine ⟨_, hname, by rwa [String.toList_ofList], by rwa [String.toList_ofList], ?_⟩
    rw [← String.toList_eq_nil_iff, String.toList_ofList]
    exact iff_of_false (screenshotStem_ne_nil _) fun he => hnone (he ▸ List.suffix_refl _)

/-- Plain characters stay as they are. -/
private theorem hyphenated_plain {s : List Char} (h : ∀ c ∈ s, isPlainNameChar c = true) :
    hyphenated s = s := by
  have hblank : ∀ c ∈ s, isBlank c = false := fun c hc => (isPlainNameChar_small (h c hc)).1
  have hlower : lowerList s = s.map Char.toLower :=
    (lowers_lowerAfter [] s).eq_map_toLower fun c hc => (isPlainNameChar_lt (h c hc)).2
  rw [hyphenated, trim, trimWith_of_none hblank, squeeze, squeezeAfter_of_none hblank, hlower]
  exact (List.map_congr_left fun c hc => (isPlainNameChar_small (h c hc)).2).trans (List.map_id s)

/-- The name of a picture is its own. -/
theorem screenshotFileName_plain {stem : String} (h : ∀ c ∈ stem.toList, isPlainNameChar c = true)
    (hfirst : ∀ c ∈ stem.toList.head?, c ≠ '_') :
    screenshotFileName (stem ++ ".png") = stem ++ ".png" := by
  have hname : (stem ++ ".png").toList = stem.toList ++ imageSuffix := String.toList_append
  have hplain : ∀ c ∈ stem.toList ++ imageSuffix, isPlainNameChar c = true :=
    List.forall_mem_append.mpr ⟨h, by decide⟩
  have hfirst' : ∀ c ∈ (stem.toList ++ imageSuffix).head?, (c == '_') = false := by
    intro c hc
    cases hstem : stem.toList with
    | nil =>
      rw [hstem] at hc
      cases hc
      decide
    | cons d rest =>
      rw [hstem] at hc hfirst
      exact beq_eq_false_iff_ne.mpr (hfirst c hc)
  have hlast : ∀ c ∈ (stem.toList ++ imageSuffix).getLast?, (c == '_') = false := by
    intro c hc
    rw [List.getLast?_append_of_ne_nil _ (by decide)] at hc
    cases hc
    decide
  have husable : usablePart (stem.toList ++ imageSuffix) = stem.toList ++ imageSuffix := by
    rw [usablePart, hyphenated_plain hplain, squeeze,
      squeezeAfter_of_none fun c hc => (Bool.not_eq_false' _).mpr (hplain c hc)]
    exact trimWith_self hfirst' hlast
  have hstem : screenshotStem (stem.toList ++ imageSuffix) = stem.toList ++ imageSuffix := by
    rw [screenshotStem_eq, husable, if_neg]
    rw [List.isEmpty_iff, List.append_eq_nil_iff]
    rintro ⟨_, ⟨⟩⟩
  rw [screenshotFileName, hname, hstem,
    if_pos (List.isSuffixOf_iff_suffix.mpr (List.suffix_append _ _)), ← hname,
    String.ofList_toList]

/-- The name of a step's picture is a stem of small letters, digits, low lines, points and hyphens
with the suffix behind it, and it is its own name. The stem is empty exactly if nothing but the
suffix is legible in the text; where nothing is legible at all, a stem is put in. -/
theorem screenshotFileName_stem (name : String) :
    (∃ stem, screenshotFileName name = stem ++ ".png" ∧
        (∀ c ∈ stem.toList, isPlainNameChar c = true) ∧
        (stem = "" ↔ ComesTo (strip name).toList ".png".toList)) ∧
      ((∀ c ∈ (strip name).toList, isLegible c = false) →
        screenshotFileName name = "screenshot.png") ∧
      screenshotFileName (screenshotFileName name) = screenshotFileName name := by
  obtain ⟨stem, hname, hplain, hfirst, hempty⟩ := exists_stem name
  have htrim : (strip name).toList = trim name.toList := String.toList_ofList
  rw [screenshotStem_eq_suffix_iff, ← htrim] at hempty
  refine ⟨⟨stem, hname, hplain, hempty⟩, fun h => ?_, ?_⟩
  · rw [htrim] at h
    have hnone : usablePart name.toList = [] :=
      (usablePart_eq_iff (List.forall_mem_nil _)).mpr
        ⟨trim name.toList, [], [], by simp, rfl, by rwa [List.append_nil]⟩
    have hstem : screenshotStem name.toList = "screenshot".toList := by
      rw [screenshotStem_eq, hnone]
      rfl
    rw [screenshotFileName, hstem]
    decide
  · rw [hname, screenshotFileName_plain hplain hfirst]

/-- Of two foreign characters no stem is left, and one is put in. -/
theorem screenshotFileName_stem_foreign :
    (∀ c ∈ (strip "日本").toList, isLegible c = false) ∧
      screenshotFileName "日本" = "screenshot.png" := by
  have hforeign : ∀ c ∈ (strip "日本").toList, isLegible c = false := by decide
  exact ⟨hforeign, (screenshotFileName_stem "日本").2.1 hforeign⟩

/-- Behind two foreign characters the suffix stands for a whole name, and no stem is put in. -/
theorem stem_missing :
    screenshotFileName "日本.png" = ".png" ∧
      ¬ ∃ stem, stem ≠ "" ∧ screenshotFileName "日本.png" = stem ++ ".png" := by
  have hname : screenshotFileName "日本.png" = ".png" := by decide +kernel
  refine ⟨hname, ?_⟩
  rintro ⟨stem, hstem, hadded⟩
  rw [hname, ← String.toList_inj, String.toList_append] at hadded
  exact hstem (String.toList_eq_nil_iff.mp (List.append_cancel_right hadded).symm)

end Names

end FeatureRun.Run
