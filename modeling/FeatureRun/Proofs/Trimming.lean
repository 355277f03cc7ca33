import FeatureRun.Text.Blank
import Mathlib.Data.List.Basic
import Mathlib.Data.List.DropRight
import Mathlib.Data.List.TakeDrop
import Mathlib.Data.List.TakeWhile

/-!
What is left of a text whose ends are trimmed and whose runs are squeezed. A trimmed text stands
between characters that are dropped and neither begins nor ends with one; marks at the ends of a
squeezed text are those of the characters there. Main statements: `trimWith_between`,
`exists_trimWith`, `trimWith_squeeze`.
-/
namespace FeatureRun.Text

section Trimming
variable {p : Char → Bool} {s t front behind : List Char}

private theorem dropWhile_front (hfront : ∀ c ∈ front, p c = true)
    (ht : ∀ c ∈ t.head?, p c = false) : (front ++ t).dropWhile p = t := by
  rw [List.dropWhile_append_of_pos hfront]
  cases t with
  | nil => rfl
  | cons c t =>
    have hc : ¬ p c = true := by
      rw [ht c rfl]
      exact Bool.false_ne_true
    rw [List.dropWhile_cons_of_neg hc]

/-- What stands between characters that are dropped, and neither begins nor ends with one, is left
by trimming. -/
theorem trimWith_between (hfront : ∀ c ∈ front, p c = true) (hbehind : ∀ c ∈ behind, p c = true)
    (hfirst : ∀ c ∈ t.head?, p c = false) (hlast : ∀ c ∈ t.getLast?, p c = false) :
    trimWith p (front ++ t ++ behind) = t := by
  cases t with
  | nil =>
    have hall : ∀ c ∈ front ++ behind, p c = true := List.forall_mem_append.mpr ⟨hfront, hbehind⟩
    have hnone : (front ++ behind).dropWhile p = [] := by
      simpa using dropWhile_front (t := []) hall (by simp)
    rw [List.append_nil, trimWith, trimLeftWith, hnone]
    rfl
  | cons c t =>
    have hback : ((c :: t ++ behind).reverse.dropWhile p).reverse = c :: t := by
      rw [List.reverse_append, dropWhile_front, List.reverse_reverse]
      · exact fun x hx => hbehind x (List.mem_reverse.mp hx)
      · rwa [List.head?_reverse]
    rw [trimWith, trimLeftWith, List.append_assoc,
      dropWhile_front (t := c :: t ++ behind) hfront hfirst, trimRightWith, hback]

/-- A text that neither begins nor ends with what is dropped is left as it is. -/
theorem trimWith_self (hfirst : ∀ c ∈ s.head?, p c = false)
    (hlast : ∀ c ∈ s.getLast?, p c = false) : trimWith p s = s := by
  have hbetween : trimWith p ([] ++ s ++ []) = s :=
    trimWith_between (List.forall_mem_nil _) (List.forall_mem_nil _) hfirst hlast
  rwa [List.append_nil, List.nil_append] at hbetween

theorem trimWith_of_none (h : ∀ c ∈ s, p c = false) : trimWith p s = s :=
  trimWith_self (fun c hc => h c (List.mem_of_mem_head? hc))
    (fun c hc => h c (List.mem_of_mem_getLast? hc))

/-- Trimming takes off characters that are dropped, on both sides. -/
theorem exists_trimWith (p : Char → Bool) (s : List Char) :
    ∃ front behind, s = front ++ trimWith p s ++ behind ∧ (∀ c ∈ front, p c = true) ∧
      ∀ c ∈ behind, p c = true := by
  have hrest := List.takeWhile_append_dropWhile (p := p) (l := (s.dropWhile p).reverse)
  refine ⟨s.takeWhile p, ((s.dropWhile p).reverse.takeWhile p).reverse, ?_, ?_, ?_⟩
  · rw [trimWith, trimRightWith, trimLeftWith, List.append_assoc, ← List.reverse_append, hrest,
      List.reverse_reverse, List.takeWhile_append_dropWhile]
  · exact fun c hc => List.mem_takeWhile_imp hc
  · exact fun c hc => List.mem_takeWhile_imp (List.mem_reverse.mp hc)

theorem mem_trimWith {c : Char} (h : c ∈ trimWith p s) : c ∈ s := by
  have hleft : c ∈ trimLeftWith p s := by
    have hright := List.mem_reverse.mp h
    exact List.mem_reverse.mp ((List.dropWhile_sublist p).mem hright)
  exact (List.dropWhile_sublist p).mem hleft

/-- Nothing is left of a text exactly if all of it is dropped. -/
theorem trimWith_eq_nil_iff : trimWith p s = [] ↔ ∀ c ∈ s, p c = true := by
  constructor
  · intro h
    obtain ⟨front, behind, hs, hfront, hbehind⟩ := exists_trimWith p s
    rw [hs, h, List.append_nil]
    exact List.forall_mem_append.mpr ⟨hfront, hbehind⟩
  · intro h
    have hbetween : trimWith p (s ++ [] ++ []) = [] :=
      trimWith_between h (List.forall_mem_nil _) nofun nofun
    rwa [List.append_nil, List.append_nil] at hbetween

/-- A trimmed text does not end with what is dropped. -/
theorem getLast?_trimRightWith (p : Char → Bool) (s : List Char) :
    ∀ c ∈ (trimRightWith p s).getLast?, p c = false := by
  intro c hc
  rw [trimRightWith, List.getLast?_reverse] at hc
  have hfirst := List.head?_dropWhile_not p s.reverse
  rw [hc] at hfirst
  exact hfirst

/-- A trimmed text does not begin with what is dropped. -/
theorem head?_trimWith (p : Char → Bool) (s : List Char) :
    ∀ c ∈ (trimWith p s).head?, p c = false := by
  intro c hc
  obtain ⟨rest, hrest⟩ : trimWith p s <+: s.dropWhile p := List.rdropWhile_prefix p _
  have hfirst := List.head?_dropWhile_not p s
  rw [← hrest, List.head?_append_of_ne_nil _ (List.ne_nil_of_mem (List.mem_of_mem_head? hc)),
    hc] at hfirst
  exact hfirst

theorem exists_trimRightWith (p : Char → Bool) (s : List Char) :
    ∃ behind, s = trimRightWith p s ++ behind ∧ ∀ c ∈ behind, p c = true :=
  ⟨s.rtakeWhile p, List.rdropWhile_append_rtakeWhile.symm, fun _ hc => List.mem_rtakeWhile_imp hc⟩

/-- More of what is dropped changes nothing. -/
theorem trimRightWith_append (h : ∀ c ∈ behind, p c = true) :
    trimRightWith p (s ++ behind) = trimRightWith p s := by
  rw [trimRightWith, List.reverse_append, List.dropWhile_append_of_pos fun c hc =>
    h c (List.mem_reverse.mp hc)]
  rfl

/-- Nothing is dropped in front of a character that stays. -/
theorem trimRightWith_append_of_exists (h : ∃ c ∈ behind, p c = false) :
    trimRightWith p (front ++ behind) = front ++ trimRightWith p behind := by
  have hsome : (behind.reverse.dropWhile p).isEmpty = false := by
    obtain ⟨c, hc, hstays⟩ := h
    rw [List.isEmpty_eq_false_iff, ne_eq, List.dropWhile_eq_nil_iff]
    intro hall
    rw [hall c (List.mem_reverse.mpr hc)] at hstays
    cases hstays
  rw [trimRightWith, List.reverse_append, List.dropWhile_append, hsome,
    if_neg Bool.false_ne_true, List.reverse_append, List.reverse_reverse]
  rfl

end Trimming

section Squeezing
variable {p : Char → Bool} {mark c : Char} {s : List Char} {inRun : Bool}

theorem mem_squeezeAfter (h : c ∈ squeezeAfter p mark inRun s) :
    c = mark ∨ c ∈ s ∧ p c = false := by
  induction s generalizing inRun with
  | nil => cases h
  | cons d s ih =>
    have hrest (h : c ∈ s ∧ p c = false) : c ∈ d :: s ∧ p c = false :=
      h.imp_left (List.mem_cons_of_mem d)
    rw [squeezeAfter] at h
    split at h
    · split at h
      · exact (ih h).imp_right hrest
      · rcases List.mem_cons.mp h with h | h
        · exact .inl h
        · exact (ih h).imp_right hrest
    · rename_i hd
      rcases List.mem_cons.mp h with rfl | h
      · exact .inr ⟨List.mem_cons_self, Bool.eq_false_iff.mpr hd⟩
      · exact (ih h).imp_right hrest

theorem squeezeAfter_of_none (h : ∀ c ∈ s, p c = false) : squeezeAfter p mark inRun s = s := by
  induction s generalizing inRun with
  | nil => rfl
  | cons c s ih =>
    obtain ⟨hc, hs⟩ := List.forall_mem_cons.mp h
    rw [squeezeAfter, hc, if_neg Bool.false_ne_true, ih hs]

/-- Every run leaves its mark. -/
theorem none_of_mark_not_mem (h : mark ∉ squeeze p mark s) : ∀ c ∈ s, p c = false := by
  unfold squeeze at h
  induction s with
  | nil => exact List.forall_mem_nil _
  | cons c s ih =>
    rw [squeezeAfter] at h
    split at h
    · exact absurd List.mem_cons_self h
    · rename_i hc
      exact List.forall_mem_cons.mpr
        ⟨(Bool.not_eq_true _).mp hc, ih (List.not_mem_of_not_mem_cons h)⟩

variable (p mark)

private theorem squeezeAfter_append (inRun : Bool) (s t : List Char) :
    ∃ inRun', squeezeAfter p mark inRun (s ++ t) =
      squeezeAfter p mark inRun s ++ squeezeAfter p mark inRun' t := by
  induction s generalizing inRun with
  | nil => exact ⟨inRun, rfl⟩
  | cons c s ih =>
    simp only [List.cons_append, squeezeAfter]
    split
    · obtain ⟨inRun', h⟩ := ih true
      rw [h]
      split <;> exact ⟨inRun', rfl⟩
    · obtain ⟨inRun', h⟩ := ih false
      exact ⟨inRun', by rw [h]; rfl⟩

def comesToMark (c : Char) : Bool := p c || c == mark

variable {p mark}

private theorem not_comesToMark (h : comesToMark p mark c = false) :
    p c = false ∧ (c == mark) = false :=
  Bool.or_eq_false_iff.mp h

private theorem squeezeAfter_marks (h : ∀ c ∈ s, comesToMark p mark c = true) :
    ∀ c ∈ squeezeAfter p mark inRun s, (c == mark) = true := by
  intro c hc
  rcases mem_squeezeAfter hc with rfl | ⟨hmem, hkept⟩
  · exact beq_self_eq_true c
  · have hmark := h c hmem
    rwa [comesToMark, hkept, Bool.false_or] at hmark

/-- A character that stays is squeezed to itself in front, and no run goes on behind it. -/
private theorem squeezeAfter_cons (h : p c = false) (s : List Char) :
    squeezeAfter p mark inRun (c :: s) = c :: squeeze p mark s := by
  rw [squeezeAfter, h]
  rfl

private theorem getLast?_squeezeAfter (h : ∀ c ∈ s.getLast?, p c = false) :
    (squeezeAfter p mark inRun s).getLast? = s.getLast? := by
  rcases List.eq_nil_or_concat s with rfl | ⟨s, c, rfl⟩
  · rfl
  · have hc : p c = false := h c (by simp)
    obtain ⟨inRun', hcut⟩ := squeezeAfter_append p mark inRun s [c]
    rw [List.concat_eq_append, hcut, squeezeAfter_cons hc]
    simp [squeeze, squeezeAfter]

/-- Marks at the ends are those of the characters that come to marks. -/
private theorem trimWith_squeeze (p : Char → Bool) (mark : Char) (s : List Char) :
    trimWith (· == mark) (squeeze p mark s) = squeeze p mark (trimWith (comesToMark p mark) s) := by
  obtain ⟨front, behind, hs, hfront, hbehind⟩ := exists_trimWith (comesToMark p mark) s
  have hfirst := head?_trimWith (comesToMark p mark) s
  have hlast : ∀ c ∈ (trimWith (comesToMark p mark) s).getLast?, comesToMark p mark c = false :=
    getLast?_trimRightWith _ _
  generalize trimWith (comesToMark p mark) s = core at hs hfirst hlast
  obtain ⟨_, hcut⟩ := squeezeAfter_append p mark false (front ++ core) behind
  obtain ⟨inRun, hcut'⟩ := squeezeAfter_append p mark false front core
  -- The core begins with what stays, so it is no matter whether a run goes before it.
  have hcore : squeezeAfter p mark inRun core = squeeze p mark core ∧
      ∀ c ∈ (squeeze p mark core).head?, (c == mark) = false := by
    cases core with
    | nil => exact ⟨rfl, nofun⟩
    | cons c core =>
      obtain ⟨hc, hmark⟩ := not_comesToMark (hfirst c rfl)
      rw [squeeze, squeezeAfter_cons hc, squeezeAfter_cons hc]
      exact ⟨rfl, fun d hd => Option.some.inj hd ▸ hmark⟩
  rw [squeeze, hs, hcut, hcut', hcore.1]
  refine trimWith_between (squeezeAfter_marks hfront) (squeezeAfter_marks hbehind) hcore.2 ?_
  intro c hc
  rw [squeeze, getLast?_squeezeAfter fun c hc => (not_comesToMark (hlast c hc)).1] at hc
  exact (not_comesToMark (hlast c hc)).2

/-- A word without marks is left of a squeezed text exactly if it is left of the text. -/
theorem trimWith_squeeze_eq_iff {word : List Char}
    (h : ∀ c ∈ word, comesToMark p mark c = false) :
    trimWith (· == mark) (squeeze p mark s) = word ↔ trimWith (comesToMark p mark) s = word := by
  rw [trimWith_squeeze]
  generalize trimWith (comesToMark p mark) s = core
  constructor
  · rintro rfl
    have hnone : mark ∉ squeeze p mark core := fun hmark =>
      beq_eq_false_iff_ne.mp (not_comesToMark (h mark hmark)).2 rfl
    exact (squeezeAfter_of_none (none_of_mark_not_mem hnone)).symm
  · rintro rfl
    exact squeezeAfter_of_none fun c hc => (not_comesToMark (h c hc)).1

end Squeezing

end FeatureRun.Text
