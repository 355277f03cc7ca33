import FeatureRun.Proofs.ScreenshotPlaces
import FeatureRun.Proofs.Session
import FeatureRun.Proofs.SmallLetters
import FeatureRun.Proofs.StepGrammar

/-!
Viewports. A text is a viewport if it is two runs of decimal digits around one mark; a session is
opened with a window of that size if both sides are positive, and else without one. Main statement:
`parseViewport_sizes`.
-/
namespace FeatureRun.Text

private theorem split_eq_splitOn {α : Type} [DecidableEq α] (sep : α) (s : List α) :
    split sep s = s.splitOn sep := by
  induction s with
  | nil => rfl
  | cons c s ih =>
    have hsome := List.splitOn_ne_nil sep s
    rw [split, ih, List.splitOn_cons_eq_if_modifyHead]
    simp only [beq_iff_eq]
    cases hs : s.splitOn sep with
    | nil => exact absurd hs hsome
    | cons piece pieces => rfl

/-- A text has two pieces exactly if it has one separator, between them. -/
private theorem split_pair_iff {α : Type} [DecidableEq α] {sep : α} {s a b : List α} :
    split sep s = [a, b] ↔ s = a ++ sep :: b ∧ sep ∉ a ∧ sep ∉ b := by
  rw [split_eq_splitOn]
  constructor
  · intro h
    have hjoin : [sep].intercalate (s.splitOn sep) = s := List.intercalate_splitOn sep
    have hnone (piece : List α) (hp : piece ∈ [a, b]) : sep ∉ piece := by
      rw [← h, ← split_eq_splitOn] at hp
      exact not_mem_split hp
    rw [h] at hjoin
    exact ⟨by simpa using hjoin.symm, hnone a (by simp), hnone b (by simp)⟩
  · rintro ⟨rfl, ha, hb⟩
    rw [List.splitOn_append_cons_self_of_not_mem ha, List.splitOn_eq_singleton hb]

end FeatureRun.Text

namespace FeatureRun.Run
open FeatureRun.Text FeatureRun.Number FeatureRun.Data FeatureRun.Browser FeatureRun.Spec
open scoped FeatureRun.CoreInstances

/-- The text is two runs of characters in `p` around one mark, with blanks around each of them. -/
structure IsSize (p : Char → Bool) (s width height : List Char) : Prop where
  written : ∃ a b c d mark, s = (a ++ width ++ b) ++ mark :: (c ++ height ++ d) ∧
    (∀ x ∈ a ++ b ++ (c ++ d), isBlank x = true) ∧ (mark = 'x' ∨ mark = 'X' ∨ mark = '×')
  some : width ≠ [] ∧ height ≠ []
  digits : ∀ c ∈ width ++ height, p c = true

/-- What is meant by a text: the size that it is, or none. -/
inductive Denotes (s : List Char) : Option (Int × Int) → Prop
  | size {width height : List Char} : IsSize isDecimal s width height →
      Denotes s (some (decimalsValue width, decimalsValue height))
  | none : (¬ ∃ width height, IsSize isDecimal s width height) → Denotes s none

/-- The run is too long, or it has a digit character without a decimal value. -/
def Unread (ds : List Char) : Prop := digitLimit < ds.length ∨ ∃ c ∈ ds, isDecimal c = false

/-- The text is two runs of digit characters around one mark, and one of them is not read. -/
def Misread (s : List Char) : Prop :=
  ∃ width height, IsSize isDigit s width height ∧ (Unread width ∨ Unread height)

section Marks

def plainMark (c : Char) : Char := if lowerChar c = '×' then 'x' else lowerChar c

private theorem plainMark_mark_iff {c : Char} :
    plainMark c = 'x' ↔ c = 'x' ∨ c = 'X' ∨ c = '×' := by
  have hx : lowerChar c = 'x' ↔ c = 'x' ∨ c = 'X' :=
    lowerChar_eq_iff (by decide +kernel) (by decide) (by decide)
  have htimes : lowerChar c = '×' ↔ c = '×' := by
    constructor
    · intro h
      rcases eq_or_capital (c := c) (by rw [h]; decide +kernel) with hc | ⟨_, hhigh, hcode⟩
      · exact hc.symm.trans h
      · rw [h] at hcode
        have hten : '×'.toNat = 0xD7 := by decide
        omega
    · rintro rfl
      decide
  rw [plainMark]
  split
  · rename_i h
    exact iff_of_true rfl (.inr (.inr (htimes.mp h)))
  · rename_i h
    rw [hx, ← or_assoc, ← htimes, or_iff_left h]

def isInner (c : Char) : Bool := isBlank c || isDigit c

private theorem isInner_holds {c : Char} (h : isInner c = true) :
    (digitRanges ++ blankRanges : Ranges).holds c.toNat = true := by
  rw [Ranges.holds_append, Bool.or_eq_true, or_comm]
  exact ((Bool.or_eq_true _ _).mp h).imp_right isDigit_holds

private theorem isInner_small {c : Char} (h : isInner c = true) :
    smallRanges.holds c.toNat = true := by
  have hinner := isInner_holds h
  rw [Ranges.holds_append] at hinner
  rw [smallRanges, Ranges.holds_append, Ranges.holds_append, ← Bool.or_assoc, hinner,
    Bool.true_or]

private theorem plainMark_inner {c : Char} (h : isInner c = true) : plainMark c = c := by
  have hlower := lowerChar_small (isInner_small h)
  rw [plainMark, hlower, if_neg]
  rintro rfl
  exact absurd h (by decide)

/-- What stands as a blank or a digit character is that. -/
private theorem plainMark_eq {c : Char} (h : isInner (plainMark c) = true) : plainMark c = c := by
  unfold plainMark at h ⊢
  split at h
  · exact absurd h (by decide)
  · rw [if_neg ‹_›]
    refine (eq_or_capital (isInner_small h)).resolve_right fun ⟨hlow, hhigh, hcode⟩ => ?_
    have hletter := @Ranges.not_holds_of_apart _ [(0x61, 0x7A)] (by decide +kernel) _
      (isInner_holds h)
    rw [Ranges.holds_iff.mpr ⟨(0x61, 0x7A), List.mem_cons_self, by omega, by omega⟩] at hletter
    cases hletter

def plainMarks (s : List Char) : List Char := (lowerList s).map fun c => if c = '×' then 'x' else c

/-- Before blanks, digit characters and marks each character stands on its own. -/
private theorem plainMarks_eq_map {s : List Char}
    (h : (∀ c ∈ plainMarks s, isInner c = true ∨ c = 'x') ∨
      ∀ c ∈ s, isInner (plainMark c) = true ∨ plainMark c = 'x') :
    plainMarks s = s.map plainMark := by
  have hsmall {c : Char} (hc : isInner (if c = '×' then 'x' else c) = true ∨
      (if c = '×' then 'x' else c) = 'x') : smallRanges.holds c.toNat = true := by
    by_cases hten : c = '×'
    · rw [hten]
      decide +kernel
    · rw [if_neg hten] at hc
      rcases hc with hc | rfl
      · exact isInner_small hc
      · decide +kernel
  have hlower : lowerList s = s.map lowerChar := by
    rcases h with h | h
    · have hout : ∀ c ∈ lowerList s, smallRanges.holds c.toNat = true :=
        fun c hc => hsmall (h _ (List.mem_map_of_mem hc))
      have hlowers : Lowers s ([] ++ lowerList s) := lowers_lowerAfter [] s
      obtain ⟨r, u, hs, hr, hu⟩ := hlowers.of_append_small hout
      rw [hr.eq_nil, List.nil_append] at hs
      rw [hu, hs]
    · exact (lowers_lowerAfter [] s).eq_map fun c hc => hsmall (h c hc)
  rw [plainMarks, hlower, List.map_map]
  rfl

private theorem map_plainMark_inner {s : List Char} (h : ∀ c ∈ s, isInner c = true) :
    s.map plainMark = s :=
  (List.map_congr_left fun c hc => plainMark_inner (h c hc)).trans (List.map_id s)

private theorem eq_of_map_plainMark {s t : List Char} (h : s.map plainMark = t)
    (ht : ∀ c ∈ t, isInner c = true) : s = t := by
  subst h
  refine ((List.map_congr_left fun c hc => ?_).trans (List.map_id s)).symm
  exact plainMark_eq (ht _ (List.mem_map_of_mem hc))

end Marks

section Sizes
variable {s width height : List Char}

/-- Blanks around digit characters. -/
private theorem inner_between {a ds b : List Char} (ha : ∀ c ∈ a, isBlank c = true)
    (hds : ∀ c ∈ ds, isDigit c = true) (hb : ∀ c ∈ b, isBlank c = true) :
    ∀ c ∈ a ++ ds ++ b, isInner c = true := by
  have hblank {c : Char} (h : isBlank c = true) : isInner c = true :=
    (Bool.or_eq_true _ _).mpr (.inl h)
  refine List.forall_mem_append.mpr ⟨List.forall_mem_append.mpr ⟨fun c hc => hblank (ha c hc), ?_⟩,
    fun c hc => hblank (hb c hc)⟩
  exact fun c hc => (Bool.or_eq_true _ _).mpr (.inr (hds c hc))

private theorem trim_digits {a ds b : List Char} (ha : ∀ c ∈ a, isBlank c = true)
    (hds : ∀ c ∈ ds, isDigit c = true) (hb : ∀ c ∈ b, isBlank c = true) :
    trim (a ++ ds ++ b) = ds :=
  trimWith_between ha hb
    (fun c hc => not_isBlank_of_isDigit (hds c (List.mem_of_mem_head? hc)))
    (fun c hc => not_isBlank_of_isDigit (hds c (List.mem_of_mem_getLast? hc)))

private theorem allDigits_iff {ds : List Char} :
    allDigits ds = true ↔ ds ≠ [] ∧ ∀ c ∈ ds, isDigit c = true := by
  rw [allDigits, Bool.and_eq_true, Bool.not_eq_true', List.isEmpty_eq_false_iff, List.all_eq_true]

private theorem mark_not_inner {t : List Char} (h : ∀ c ∈ t, isInner c = true) : 'x' ∉ t := by
  intro hmem
  exact absurd (h 'x' hmem) (by decide)

/-- One mark between blanks and digit characters becomes the separator. -/
private theorem plainMarks_eq_iff {front behind : List Char}
    (hfront : ∀ c ∈ front, isInner c = true)
    (hbehind : ∀ c ∈ behind, isInner c = true) :
    plainMarks s = front ++ 'x' :: behind ↔
      ∃ mark, s = front ++ mark :: behind ∧ (mark = 'x' ∨ mark = 'X' ∨ mark = '×') := by
  have hall {q : Char → Prop} (hinner : ∀ c, isInner c = true → q c) {m : Char} (hm : q m) :
      ∀ c ∈ front ++ m :: behind, q c :=
    List.forall_mem_append.mpr ⟨fun c hc => hinner c (hfront c hc),
      List.forall_mem_cons.mpr ⟨hm, fun c hc => hinner c (hbehind c hc)⟩⟩
  constructor
  · intro h
    have hmap : plainMarks s = s.map plainMark := by
      refine plainMarks_eq_map (.inl ?_)
      rw [h]
      exact hall (fun _ => .inl) (.inr rfl)
    rw [h] at hmap
    obtain ⟨first, rest, rfl, hfirst, hrest⟩ := List.map_eq_append_iff.mp hmap.symm
    obtain ⟨mark, last, rfl, hmark, hlast⟩ := List.map_eq_cons_iff.mp hrest
    rw [eq_of_map_plainMark hfirst hfront, eq_of_map_plainMark hlast hbehind]
    exact ⟨mark, rfl, plainMark_mark_iff.mp hmark⟩
  · rintro ⟨mark, rfl, hmark⟩
    have hsep := plainMark_mark_iff.mpr hmark
    have hplain : plainMarks (front ++ mark :: behind) = (front ++ mark :: behind).map plainMark :=
      plainMarks_eq_map (.inr (hall (fun c hc => .inl (by rwa [plainMark_inner hc])) (.inr hsep)))
    rw [hplain, List.map_append, List.map_cons, hsep, map_plainMark_inner hfront,
      map_plainMark_inner hbehind]

/-- The text is split into two runs of digit characters exactly if it is a size of such. -/
private theorem pieces_iff :
    (split 'x' (plainMarks s)).map trim = [width, height] ∧
        (allDigits width && allDigits height) = true ↔ IsSize isDigit s width height := by
  rw [Bool.and_eq_true, allDigits_iff, allDigits_iff]
  constructor
  · rintro ⟨hpieces, ⟨hwidth, hw⟩, hheight, hh⟩
    obtain ⟨front, rest, hsplit, hfront, hrest⟩ := List.map_eq_cons_iff.mp hpieces
    obtain ⟨behind, rest, rfl, hbehind, hrest⟩ := List.map_eq_cons_iff.mp hrest
    rw [List.map_eq_nil_iff.mp hrest, split_pair_iff] at hsplit
    obtain ⟨a, b, hab, ha, hb⟩ := exists_trimWith isBlank front
    obtain ⟨c, d, hcd, hc, hd⟩ := exists_trimWith isBlank behind
    change front = a ++ trim front ++ b at hab
    change behind = c ++ trim behind ++ d at hcd
    rw [hfront] at hab
    rw [hbehind] at hcd
    have hinner := inner_between ha hw hb
    have hinner' := inner_between hc hh hd
    rw [hab, hcd] at hsplit
    obtain ⟨mark, hs, hmark⟩ := (plainMarks_eq_iff hinner hinner').mp hsplit.1
    refine ⟨⟨a, b, c, d, mark, hs, ?_, hmark⟩, ⟨hwidth, hheight⟩,
      List.forall_mem_append.mpr ⟨hw, hh⟩⟩
    exact List.forall_mem_append.mpr
      ⟨List.forall_mem_append.mpr ⟨ha, hb⟩, List.forall_mem_append.mpr ⟨hc, hd⟩⟩
  · rintro ⟨⟨a, b, c, d, mark, hs, hblanks, hmark⟩, ⟨hwidth, hheight⟩, hdigits⟩
    obtain ⟨hw, hh⟩ := List.forall_mem_append.mp hdigits
    obtain ⟨hab, hcd⟩ := List.forall_mem_append.mp hblanks
    obtain ⟨ha, hb⟩ := List.forall_mem_append.mp hab
    obtain ⟨hc, hd⟩ := List.forall_mem_append.mp hcd
    have hinner := inner_between ha hw hb
    have hinner' := inner_between hc hh hd
    have hplain := (plainMarks_eq_iff hinner hinner').mpr ⟨mark, hs, hmark⟩
    have hsplit := split_pair_iff.mpr ⟨hplain, mark_not_inner hinner, mark_not_inner hinner'⟩
    rw [hsplit, List.map_cons, List.map_singleton, trim_digits ha hw hb, trim_digits hc hh hd]
    exact ⟨rfl, ⟨hwidth, hw⟩, hheight, hh⟩

theorem IsSize.isDigit (h : IsSize isDecimal s width height) : IsSize isDigit s width height :=
  ⟨h.written, h.some, fun c hc => isDigit_of_isDecimal (h.digits c hc)⟩

/-- A text is one size at most. -/
private theorem IsSize.unique {width' height' : List Char} (h : IsSize Text.isDigit s width height)
    (h' : IsSize Text.isDigit s width' height') : width = width' ∧ height = height' := by
  have hpieces := (pieces_iff.mpr h).1
  rw [(pieces_iff.mpr h').1] at hpieces
  cases hpieces
  exact ⟨rfl, rfl⟩

/-- Decimal digits are read unless there are too many of them. -/
private theorem IsSize.not_misread (h : IsSize isDecimal s width height)
    (hw : width.length ≤ digitLimit)
    (hh : height.length ≤ digitLimit) : ¬ Misread s := by
  rintro ⟨width', height', hdigits, hunread⟩
  obtain ⟨rfl, rfl⟩ := h.isDigit.unique hdigits
  have hnone {c : Char} (hc : c ∈ width ++ height) (hforeign : isDecimal c = false) : False :=
    Bool.false_ne_true (hforeign.symm.trans (h.digits c hc))
  rcases hunread with (hlong | ⟨c, hc, hforeign⟩) | hlong | ⟨c, hc, hforeign⟩
  · exact Nat.not_lt_of_le hw hlong
  · exact hnone (List.mem_append_left _ hc) hforeign
  · exact Nat.not_lt_of_le hh hlong
  · exact hnone (List.mem_append_right _ hc) hforeign

private theorem Denotes.unique {x y : Option (Int × Int)} (hx : Denotes s x) (hy : Denotes s y) :
    x = y := by
  cases hx with
  | size hx =>
    cases hy with
    | size hy =>
      obtain ⟨rfl, rfl⟩ := hx.isDigit.unique hy.isDigit
      rfl
    | none hy => exact absurd ⟨_, _, hx⟩ hy
  | none hx =>
    cases hy with
    | size hy => exact absurd ⟨_, _, hy⟩ hx
    | none _ => rfl

end Sizes

section Reading

private theorem viewportOfText_size {s : String} {width height : List Char}
    (h : IsSize isDigit s.toList width height) :
    viewportOfText s = (do
      let w ← (readInteger 10 width).mapError .conversion
      let h ← (readInteger 10 height).mapError .conversion
      .ok (some (w, h))) := by
  obtain ⟨hpieces, hdigits⟩ := pieces_iff.mpr h
  unfold plainMarks at hpieces
  simp only [viewportOfText, hpieces, hdigits]
  rfl

private theorem viewportOfText_none {s : String}
    (h : ¬ ∃ width height, IsSize isDigit s.toList width height) : viewportOfText s = .ok none := by
  unfold viewportOfText
  dsimp only
  split
  · rename_i width height hpieces
    rw [if_neg fun hdigits => h ⟨width, height, pieces_iff.mp ⟨hpieces, hdigits⟩⟩]
  · rfl

private theorem readInteger_read {ds : List Char} (hne : ds ≠ []) (hread : ¬ Unread ds) :
    (∀ c ∈ ds, isDecimal c = true) ∧ readInteger 10 ds = .ok (decimalsValue ds : Int) := by
  obtain ⟨hshort, hnone⟩ := not_or.mp hread
  have hdecimals : ∀ c ∈ ds, isDecimal c = true := fun c hc => by
    by_contra hforeign
    exact hnone ⟨c, hc, (Bool.not_eq_true _).mp hforeign⟩
  exact ⟨hdecimals, by rw [readInteger_digits hdecimals hne, if_neg hshort]⟩

private theorem parseViewport_text (s : List CodePoint) :
    parseViewport (.text s) = viewportOfText (asString s) := by
  cases s with
  | nil => rfl
  | cons c s => rfl

/-- A text is read as what it means, unless it is misread, and then it is a failure. -/
theorem parseViewport_cases (s : List CodePoint) :
    Misread (asCharacters s) ∧ (∃ e, parseViewport (.text s) = .error e) ∨
      ¬ Misread (asCharacters s) ∧
        ∃ size, parseViewport (.text s) = .ok size ∧ Denotes (asCharacters s) size := by
  rw [parseViewport_text]
  have hchars : (asString s).toList = asCharacters s := String.toList_ofList
  by_cases hsize : ∃ width height, IsSize isDigit (asCharacters s) width height
  · obtain ⟨width, height, hsize⟩ := hsize
    have hread := viewportOfText_size (hchars.symm ▸ hsize)
    obtain ⟨hw, hh⟩ := List.forall_mem_append.mp hsize.digits
    have hmis (hunread : Unread width ∨ Unread height) : Misread (asCharacters s) :=
      ⟨width, height, hsize, hunread⟩
    by_cases hwidth : Unread width
    · obtain ⟨e, he⟩ := (readInteger_error_iff hw hsize.some.1).mpr hwidth
      refine .inl ⟨hmis (.inl hwidth), .conversion e, ?_⟩
      rw [hread, he]
      rfl
    obtain ⟨hw, hwread⟩ := readInteger_read hsize.some.1 hwidth
    by_cases hheight : Unread height
    · obtain ⟨e, he⟩ := (readInteger_error_iff hh hsize.some.2).mpr hheight
      refine .inl ⟨hmis (.inr hheight), .conversion e, ?_⟩
      rw [hread, hwread, he]
      rfl
    obtain ⟨hh, hhread⟩ := readInteger_read hsize.some.2 hheight
    refine .inr ⟨?_, _, ?_, .size ⟨hsize.written, hsize.some, List.forall_mem_append.mpr ⟨hw, hh⟩⟩⟩
    · rintro ⟨width', height', hsize', hunread⟩
      obtain ⟨rfl, rfl⟩ := hsize.unique hsize'
      exact hunread.elim hwidth hheight
    · rw [hread, hwread, hhread]
      rfl
  · refine .inr ⟨?_, none, viewportOfText_none (hchars.symm ▸ hsize), .none ?_⟩
    · rintro ⟨width, height, hdigits, _⟩
      exact hsize ⟨width, height, hdigits⟩
    · rintro ⟨width, height, hdecimals⟩
      exact hsize ⟨width, height, hdecimals.isDigit⟩

end Reading

section Windows
variable {α β : Type} {P : SessionEvent → Prop} {r : Run α}

/-- All session steps that the part takes, also before a failure, are of this kind. -/
def Takes (P : SessionEvent → Prop) (r : Run α) : Prop :=
  ∀ w, ∃ events, (outcome r w).2.events = w.events ++ events ∧ ∀ e ∈ events, P e

namespace Takes

private theorem silent (h : ∀ w, (outcome r w).2.events = w.events) : Takes P r :=
  fun w => ⟨[], by rw [h, List.append_nil], nofun⟩

theorem step {e : SessionEvent} (h : P e) : Takes P (takeStep e) := fun w =>
  ⟨[e], by rw [outcome_takeStep]; rfl, fun _ hx => List.mem_singleton.mp hx ▸ h⟩

private theorem andThen {w w' w'' : World} {events : List SessionEvent}
    (hfirst : w'.events = w.events ++ events) (hall : ∀ e ∈ events, P e)
    (hnext : ∃ more, w''.events = w'.events ++ more ∧ ∀ e ∈ more, P e) :
    ∃ events, w''.events = w.events ++ events ∧ ∀ e ∈ events, P e := by
  obtain ⟨more, hmore, hothers⟩ := hnext
  exact ⟨events ++ more, by rw [hmore, hfirst, List.append_assoc],
    List.forall_mem_append.mpr ⟨hall, hothers⟩⟩

theorem bind {f : α → Run β} (hr : Takes P r) (hf : ∀ x, Takes P (f x)) : Takes P (r >>= f) := by
  intro w
  obtain ⟨events, hevents, hall⟩ := hr w
  rw [outcome_bind]
  rcases hout : outcome r w with ⟨e | x, w'⟩
  · rw [hout] at hevents
    exact ⟨events, hevents, hall⟩
  · rw [hout] at hevents
    exact andThen hevents hall (hf x w')

theorem undoing {cleanup : Run Unit} (hr : Takes P r) (hcleanup : Takes P cleanup) :
    Takes P (undoing cleanup r) := by
  intro w
  obtain ⟨events, hevents, hall⟩ := hr w
  rw [outcome_undoing]
  rcases hout : outcome r w with ⟨e | x, w'⟩
  · rw [hout] at hevents
    have hnext := andThen hevents hall (hcleanup w')
    dsimp only
    rcases hlast : outcome cleanup w' with ⟨_ | _, _⟩ <;>
    · rw [hlast] at hnext
      exact hnext
  · rw [hout] at hevents
    exact ⟨events, hevents, hall⟩

theorem ofExcept {ε : Type} {wrap : ε → Failure} {v : Except ε α} {f : α → Run β}
    (h : ∀ x, v = .ok x → Takes P (f x)) : Takes P (ofExcept wrap v >>= f) := by
  cases v with
  | error e => exact silent fun w => by rw [outcome_bind, outcome_ofExcept]; rfl
  | ok x =>
    intro w
    rw [outcome_bind_ok (outcome_ofExcept _ _ _)]
    exact h x rfl w

end Takes

def IsAsked (o : Options) (e : SessionEvent) : Prop :=
  ∀ window, e = .newContext window → windowSize o.viewport = .ok window

private theorem openSession_asked (o : Options) : Takes (IsAsked o) (openSession o) := by
  have hother {e : SessionEvent} (he : ∀ window, e ≠ .newContext window) :
      Takes (IsAsked o) (takeStep e) := .step fun window hw => absurd hw (he window)
  have hpage : Takes (IsAsked o) (openPage o) := by
    refine .ofExcept fun window hwindow => .bind (.step ?_) fun _ =>
      .bind (hother nofun) fun _ => ?_
    · rintro _ ⟨⟩
      exact hwindow
    · refine .ofExcept fun n _ => ?_
      cases n <;> exact .silent fun _ => rfl
  have hchoose : Takes (IsAsked o) (chooseEngine o.browser) := .silent fun w => by
    obtain ⟨r, hr⟩ := chooseEngine_outcome o.browser
    rw [hr]
  refine .bind (hother nofun) fun _ => .undoing (.bind hchoose fun _ => ?_) (hother nofun)
  exact .ofExcept fun _ _ => .bind (hother nofun) fun _ => .undoing hpage (hother nofun)

/-- Each window that is opened has the size that the options ask for, and a session that is open has
one. -/
theorem openSession_windows {o : Options} {size : Option (Int × Int)}
    (h : windowSize o.viewport = .ok size) (w : World) :
    ∃ events, (outcome (openSession o) w).2.events = w.events ++ events ∧
      (∀ window, .newContext window ∈ events → window = size) ∧
      ((outcome (openSession o) w).1 = .ok () → .newContext size ∈ events) := by
  obtain ⟨events, hevents, hasked⟩ := openSession_asked o w
  have hsize (window : Option (Int × Int)) (hopened : .newContext window ∈ events) :
      window = size :=
    (Except.ok.inj (h.symm.trans (hasked _ hopened window rfl))).symm
  refine ⟨events, hevents, hsize, fun hok => ?_⟩
  rcases openSession_cases o w with ⟨engine, slow, window, timeout, ho, _⟩ | ⟨_, _, ho, _⟩
  · rw [ho] at hevents
    have htaken : events = [.start, .launch engine o.headless slow, .newContext window,
      .newPage] := (List.append_cancel_left hevents).symm
    have hopened : .newContext window ∈ events := by simp [htaken]
    rwa [← hsize window hopened]
  · rw [ho] at hok
    cases hok

def windowOf (size : Option (Int × Int)) : Option (Int × Int) :=
  size.filter fun s => 0 < s.1 && 0 < s.2

private theorem windowSize_viewportValue (size : Option (Int × Int)) :
    windowSize (viewportValue size) = .ok (windowOf size) := by
  cases size with
  | none => rfl
  | some s => rfl

/-- The options have the viewport that is read from the environment. -/
theorem ofEnvironment_viewport {env : Environment} {o : Options}
    (h : Options.ofEnvironment env = .ok o) :
    ∃ size, parseViewport (.text ((env.lookup "VIEWPORT").getD "")) = .ok size ∧
      o.viewport = viewportValue size := by
  unfold Options.ofEnvironment at h
  obtain ⟨_, _, h⟩ := bind_ok h
  obtain ⟨_, _, h⟩ := bind_ok h
  obtain ⟨size, hsize, h⟩ := bind_ok h
  cases h
  exact ⟨size, hsize, rfl⟩

/-- A text is read as a viewport exactly if it is two runs of decimal digits around one mark, and as
none otherwise, unless it is misread, and then it is a failure. The windows of a session whose
viewport is set to a text that is read have the size of that text if both sides are positive, and no
size otherwise. -/
theorem parseViewport_sizes (s : List CodePoint) :
    ((∃ e, parseViewport (.text s) = .error e) ↔ Misread (asCharacters s)) ∧
      (¬ Misread (asCharacters s) → ∀ size,
        parseViewport (.text s) = .ok size ↔ Denotes (asCharacters s) size) ∧
      ∀ (env : Environment) (o : Options), (env.lookup "VIEWPORT").getD "" = asString s →
        Options.ofEnvironment env = .ok o →
        ¬ Misread (asCharacters s) ∧ ∃ size, Denotes (asCharacters s) size ∧
          ∀ w, ∃ events, (outcome (openSession o) w).2.events = w.events ++ events ∧
            (∀ window, .newContext window ∈ events → window = windowOf size) ∧
            ((outcome (openSession o) w).1 = .ok () → .newContext (windowOf size) ∈ events) := by
  have hmeans {size : Option (Int × Int)} (h : parseViewport (.text s) = .ok size) :
      Denotes (asCharacters s) size := by
    rcases parseViewport_cases s with ⟨_, e, he⟩ | ⟨_, size', hsize, hmeans⟩
    · rw [h] at he
      cases he
    · rw [h] at hsize
      cases hsize
      exact hmeans
  refine ⟨?_, fun hread size => ⟨hmeans, fun h => ?_⟩, fun env o hs ho => ?_⟩
  · rcases parseViewport_cases s with ⟨hmis, he⟩ | ⟨hread, size, hsize, _⟩
    · exact iff_of_true he hmis
    · rw [hsize]
      exact iff_of_false nofun hread
  · obtain ⟨hmis, _⟩ | ⟨_, size', hsize, hmeans'⟩ := parseViewport_cases s
    · exact absurd hmis hread
    · rw [h.unique hmeans', hsize]
  · obtain ⟨size, hsize, hviewport⟩ := ofEnvironment_viewport ho
    rw [hs, parseViewport_text, asString_own, ← parseViewport_text] at hsize
    have hwindow : windowSize o.viewport = .ok (windowOf size) := by
      rw [hviewport, windowSize_viewportValue]
    refine ⟨fun hmis => ?_, size, hmeans hsize, fun w => openSession_windows hwindow w⟩
    obtain ⟨_, e, he⟩ | ⟨hread, _⟩ := parseViewport_cases s
    · rw [he] at hsize
      cases hsize
    · exact hread hmis

theorem parseViewport_sizes_written :
    ¬ Misread "1280 × 720".toList ∧ Denotes "1280 × 720".toList (some (1280, 720)) ∧
      parseViewport (.text "1280 × 720") = .ok (some (1280, 720)) ∧
      ∃ o, Options.ofEnvironment [("VIEWPORT", "1280 × 720")] = .ok o ∧ ∀ w,
        (outcome (openSession o) w).1 = .ok () →
        .newContext (some (1280, 720)) ∈ (outcome (openSession o) w).2.events := by
  have hsize : IsSize isDecimal "1280 × 720".toList "1280".toList "720".toList :=
    ⟨⟨[], [' '], [' '], [], '×', rfl, by decide, .inr (.inr rfl)⟩, ⟨nofun, nofun⟩, by decide⟩
  have hmeans : Denotes "1280 × 720".toList (some (1280, 720)) := .size hsize
  have hread : ¬ Misread "1280 × 720".toList := hsize.not_misread (by decide) (by decide)
  obtain ⟨_, hparse, hopens⟩ := parseViewport_sizes "1280 × 720"
  rw [asCharacters_codePoints] at hparse
  rw [asCharacters_codePoints, asString_own] at hopens
  have hviewport := (hparse hread _).mpr hmeans
  have hset : (List.lookup "VIEWPORT" [("VIEWPORT", "1280 × 720")]).getD "" = "1280 × 720" := rfl
  have hoptions : ∃ o, Options.ofEnvironment [("VIEWPORT", "1280 × 720")] = .ok o := by
    have htimeout : Environment.int [("VIEWPORT", "1280 × 720")] "SPEC_TIMEOUT_MS" 7000 =
      .ok 7000 := rfl
    have hslow : Environment.int [("VIEWPORT", "1280 × 720")] "SLOW_MO" 0 = .ok 0 := rfl
    rw [Options.ofEnvironment, htimeout, hslow, hset, hviewport]
    exact ⟨_, rfl⟩
  obtain ⟨o, ho⟩ := hoptions
  obtain ⟨_, size, hsome, hwindows⟩ := hopens _ o hset ho
  refine ⟨hread, hmeans, hviewport, o, ho, fun w hok => ?_⟩
  obtain ⟨events, hevents, _, hopened⟩ := hwindows w
  obtain rfl := hsome.unique hmeans
  rw [hevents]
  exact List.mem_append_right _ (hopened hok)

/-- A superscript is a digit character without a decimal value: the text is no size, and a failure
all the same. -/
theorem superscript_misread :
    Denotes "²x1".toList none ∧ ¬ ∃ size, parseViewport (.text "²x1") = .ok size := by
  have hdigits : IsSize isDigit "²x1".toList ['²'] ['1'] :=
    ⟨⟨[], [], [], [], 'x', rfl, nofun, .inl rfl⟩, ⟨nofun, nofun⟩, by decide⟩
  constructor
  · refine .none fun ⟨width, height, hsize⟩ => ?_
    obtain ⟨rfl, _⟩ := hdigits.unique hsize.isDigit
    exact absurd (hsize.digits '²' (by simp)) (by decide)
  · rintro ⟨size, hsize⟩
    have hread := viewportOfText_size hdigits
    rw [parseViewport_text, asString_own, hread] at hsize
    obtain ⟨n, hn, _⟩ := bind_ok hsize
    cases mapError_ok hn

end Windows

end FeatureRun.Run
