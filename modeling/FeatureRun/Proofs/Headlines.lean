import FeatureRun.Proofs.Trimming
import FeatureRun.Run.Failure

/-!
Headlines of what the browser reports. A text that begins with no blank begins with no line end
either, so the first line of a trimmed report is there to be shown. Main statement:
`headline_firstLine`.
-/
namespace FeatureRun.Text

/-- The lines of a text. A carriage return and a line feed behind it are one line end, and behind a
line end at the end of the text there is no further line. -/
def splitLines : List Char → List (List Char)
  | [] => []
  | '\r' :: '\n' :: r => [] :: splitLines r
  | c :: r =>
    if isLineEnd c then [] :: splitLines r
    else
      match splitLines r with
      | [] => [[c]]
      | line :: lines => (c :: line) :: lines

section Lines
variable {s : List Char} {c : Char}

/-- A text has a line unless it is empty. -/
private theorem head?_splitLines (h : s ≠ []) : (splitLines s).head? = some (firstLine s) := by
  fun_induction splitLines s with
  | case1 => exact absurd rfl h
  | case2 r => rfl
  | case3 c r _ hc => simp [firstLine, hc]
  | case4 c r _ hc hlines ih =>
    -- Where there is no further line, there is no further text.
    have hr : r = [] := by
      by_contra hr
      rw [hlines] at ih
      cases ih hr
    simp [firstLine, hr, hc]
  | case5 c r _ hc line lines hlines ih =>
    have hr : r ≠ [] := by
      rintro rfl
      cases hlines
    rw [hlines] at ih
    simp [firstLine, hc, Option.some.inj (ih hr)]

/-- Trimming takes off line ends too. -/
private theorem isBlank_of_isLineEnd (h : isLineEnd c = true) : isBlank c = true := by
  simp only [isLineEnd, Bool.or_eq_true, Bool.and_eq_true, decide_eq_true_eq, beq_iff_eq] at h
  rw [isBlank, Ranges.holds_iff]
  rcases h with (((h | h) | h) | h) | h
  · exact ⟨(0x9, 0xD), by decide, by omega⟩
  · exact ⟨(0x1C, 0x20), by decide, by omega⟩
  · exact ⟨(0x85, 0x85), by decide, by omega⟩
  · exact ⟨(0x2028, 0x2029), by decide, by omega⟩
  · exact ⟨(0x2028, 0x2029), by decide, by omega⟩

private theorem not_isLineEnd_of_mem_firstLine (hc : c ∈ firstLine s) : isLineEnd c = false := by
  have hkept := List.mem_takeWhile_imp (p := fun c => !isLineEnd c) hc
  rwa [Bool.not_eq_true'] at hkept

/-- The first line is cut off at a line end. -/
private theorem exists_firstLine (s : List Char) :
    ∃ rest, s = firstLine s ++ rest ∧ ∀ c ∈ rest.head?, isLineEnd c = true := by
  refine ⟨s.dropWhile fun c => !isLineEnd c, List.takeWhile_append_dropWhile.symm, fun c hc => ?_⟩
  have hstop := List.head?_dropWhile_not (fun c => !isLineEnd c) s
  rw [hc] at hstop
  simpa using hstop

/-- The first line of a text that begins with no blank begins as the text does. -/
private theorem firstLine_cons (h : isBlank c = false) (s : List Char) :
    firstLine (c :: s) = c :: firstLine s := by
  have hc : isLineEnd c = false := by
    by_contra hc
    rw [isBlank_of_isLineEnd ((Bool.not_eq_false _).mp hc)] at h
    cases h
  simp [firstLine, hc]

end Lines

end FeatureRun.Text

namespace FeatureRun.Run
open FeatureRun.Text
open scoped FeatureRun.CoreInstances

structure IsHeadline (s : String) : Prop where
  begins : ∃ c rest, s.toList = c :: rest ∧ isBlank c = false
  oneLine : ∀ c ∈ s.toList, isLineEnd c = false

variable {e : BrowserError}

private theorem kind_isHeadline (e : BrowserError) : IsHeadline e.kind := by
  unfold BrowserError.kind
  split
  · exact ⟨⟨'T', _, rfl, by decide⟩, by decide⟩
  · exact ⟨⟨'E', _, rfl, by decide⟩, by decide⟩

private theorem headline_of_blank (h : isBlankText e.message = true) : e.headline = e.kind := by
  have hnone : trim e.message.toList = [] := trimWith_eq_nil_iff.mpr (List.all_eq_true.mp h)
  rw [BrowserError.headline, headline, hnone, List.isEmpty_nil, if_pos rfl, String.ofList_toList]

private theorem headline_of_not_blank (h : isBlankText e.message = false) :
    trim e.message.toList ≠ [] ∧ e.headline.toList = firstLine (trim e.message.toList) := by
  have hsome : trim e.message.toList ≠ [] := by
    intro hnone
    rw [isBlankText, List.all_eq_true.mpr (trimWith_eq_nil_iff.mp hnone)] at h
    cases h
  rw [BrowserError.headline, headline, List.isEmpty_eq_false_iff.mpr hsome,
    if_neg Bool.false_ne_true, String.toList_ofList]
  exact ⟨hsome, rfl⟩

private theorem headline_isHeadline (e : BrowserError) : IsHeadline e.headline := by
  cases hblank : isBlankText e.message with
  | true =>
    rw [headline_of_blank hblank]
    exact kind_isHeadline e
  | false =>
    obtain ⟨hsome, hline⟩ := headline_of_not_blank hblank
    obtain ⟨c, rest, htrim⟩ := List.exists_cons_of_ne_nil hsome
    have hfirst : c ∈ (trimWith isBlank e.message.toList).head? := by
      change (trim e.message.toList).head? = some c
      rw [htrim]
      rfl
    have hc := head?_trimWith isBlank e.message.toList c hfirst
    refine ⟨⟨c, firstLine rest, ?_, hc⟩, fun d hd => ?_⟩
    · rw [hline, htrim, firstLine_cons hc]
    · rw [hline] at hd
      exact not_isLineEnd_of_mem_firstLine hd

/-- A headline is one line and begins with no blank. It is the kind of the failure for a blank
report, and otherwise the first line of the trimmed report: there is one, and it ends where the
report does or at a line end. -/
theorem headline_firstLine (e : BrowserError) :
    IsHeadline e.headline ∧
      (isBlankText e.message = true → e.headline = e.kind) ∧
      (isBlankText e.message = false →
        (splitLines (strip e.message).toList).head? = some e.headline.toList ∧
        ∃ rest, strip e.message = e.headline ++ rest ∧
          ∀ c ∈ rest.toList.head?, isLineEnd c = true) := by
  refine ⟨headline_isHeadline e, headline_of_blank, fun h => ?_⟩
  obtain ⟨hsome, hline⟩ := headline_of_not_blank h
  obtain ⟨rest, hcut, hend⟩ := exists_firstLine (trim e.message.toList)
  rw [strip, String.toList_ofList, head?_splitLines hsome, hline]
  refine ⟨rfl, String.ofList rest, ?_, by rwa [String.toList_ofList]⟩
  rw [hcut, ← hline, String.ofList_append, String.ofList_toList]

/-- A report that begins with line ends, and one that has nothing else. -/
theorem headline_firstLine_timeout :
    isBlankText "\n\u2028 Timeout 30000ms exceeded.\u2028waiting" = false ∧
      (splitLines "Timeout 30000ms exceeded.\u2028waiting".toList).head? =
        some "Timeout 30000ms exceeded.".toList ∧
      isBlankText "\x0b\x1c\x85" = true ∧
      BrowserError.headline ⟨true, "\x0b\x1c\x85"⟩ = "TimeoutError" := by
  have hlines : isBlankText "\n\u2028 Timeout 30000ms exceeded.\u2028waiting" = false := by decide
  have hblank : isBlankText "\x0b\x1c\x85" = true := by decide
  exact ⟨hlines, ((headline_firstLine
      ⟨true, "\n\u2028 Timeout 30000ms exceeded.\u2028waiting"⟩).2.2 hlines).1, hblank,
    (headline_firstLine ⟨true, "\x0b\x1c\x85"⟩).2.1 hblank⟩

end FeatureRun.Run
