import FeatureRun.Spec.Variables

/-!
What is left of a text when placeholders are replaced, as far as a class of characters tells: the
text ends up in the class exactly if one of the variables makes it vanish there. A class that the
first character of a placeholder does not belong to is never entered otherwise.
-/
namespace FeatureRun.Text

/-- A text of characters in `p` and of occurrences of `part`. -/
inductive MadeOf (p : Char → Bool) (part : List Char) : List Char → Prop
  | nil : MadeOf p part []
  | char {c : Char} {r : List Char} : p c = true → MadeOf p part r → MadeOf p part (c :: r)
  | part {r : List Char} : MadeOf p part r → MadeOf p part (part ++ r)

private theorem MadeOf.of_all {p : Char → Bool} {part s : List Char} (h : s.all p = true) :
    MadeOf p part s := by
  induction s with
  | nil => exact .nil
  | cons c r ih =>
    rw [List.all_cons, Bool.and_eq_true] at h
    exact .char h.1 (ih h.2)

section Replaced
variable {part new : List Char}

private theorem replaceAfter_append (dropped r : List Char) :
    replaceAfter part new dropped.length (dropped ++ r) = replaceAfter part new 0 r := by
  induction dropped with
  | nil => rfl
  | cons _ _ ih => exact ih

theorem replaceAll_part (h : part ≠ []) (r : List Char) :
    replaceAll part new (part ++ r) = new ++ replaceAll part new r := by
  obtain ⟨mark, tail, rfl⟩ := List.exists_cons_of_ne_nil h
  have hstarts : (mark :: tail).isPrefixOf (mark :: (tail ++ r)) = true := by
    simp [List.isPrefixOf_iff_prefix]
  rw [replaceAll, List.cons_append, replaceAfter, if_pos hstarts]
  exact congrArg _ (replaceAfter_append tail r)

theorem replaceAll_char {c : Char} {r : List Char} (h : ¬ part <+: c :: r) :
    replaceAll part new (c :: r) = c :: replaceAll part new r := by
  rw [← List.isPrefixOf_iff_prefix] at h
  rw [replaceAll, replaceAfter, if_neg h]
  rfl

variable {p : Char → Bool} {mark : Char} {tail s : List Char}

private theorem not_prefix_char (hm : p mark = false) {c : Char} (hc : p c = true)
    (r : List Char) : ¬ mark :: tail <+: c :: r := by
  rw [List.cons_prefix_cons]
  rintro ⟨rfl, _⟩
  rw [hm] at hc
  cases hc

private theorem replaceAll_of_all (hm : p mark = false) (h : s.all p = true) :
    replaceAll (mark :: tail) new s = s := by
  induction s with
  | nil => rfl
  | cons c r ih =>
    rw [List.all_cons, Bool.and_eq_true] at h
    rw [replaceAll_char (not_prefix_char hm h.1 r), ih h.2]

private theorem replaceAll_all_of_madeOf (hm : p mark = false) (hnew : new.all p = true)
    (h : MadeOf p (mark :: tail) s) : (replaceAll (mark :: tail) new s).all p = true := by
  induction h with
  | nil => rfl
  | char hc _ ih =>
    rw [replaceAll_char (not_prefix_char hm hc _), List.all_cons, hc, ih]
    rfl
  | part _ ih =>
    rw [replaceAll_part (List.cons_ne_nil mark tail), List.all_append, hnew, ih]
    rfl

/-- What a replacement leaves is all in `p` if the text was so before, or if what is put in is so
and everything else in the text is replaced. -/
theorem replaceAll_all_iff (hm : p mark = false) :
    (replaceAll (mark :: tail) new s).all p = true ↔
      s.all p = true ∨ new.all p = true ∧ MadeOf p (mark :: tail) s := by
  constructor
  · intro h
    induction hn : s.length using Nat.strongRecOn generalizing s with
    | ind n ih =>
      cases s with
      | nil => exact .inl rfl
      | cons c r =>
        by_cases hstarts : mark :: tail <+: c :: r
        · obtain ⟨rest, hrest⟩ := hstarts
          rw [← hrest] at h hn ⊢
          rw [replaceAll_part (List.cons_ne_nil mark tail), List.all_append,
            Bool.and_eq_true] at h
          have hshort : rest.length < n := by
            rw [← hn, List.length_append, List.length_cons]
            omega
          rcases ih _ hshort h.2 rfl with hall | ⟨_, hmade⟩
          · exact .inr ⟨h.1, .part (.of_all hall)⟩
          · exact .inr ⟨h.1, .part hmade⟩
        · rw [replaceAll_char hstarts, List.all_cons, Bool.and_eq_true] at h
          have hshort : r.length < n := by
            rw [← hn, List.length_cons]
            omega
          rcases ih _ hshort h.2 rfl with hall | ⟨hnew, hmade⟩
          · exact .inl (by rw [List.all_cons, h.1, hall, Bool.and_self])
          · exact .inr ⟨hnew, .char h.1 hmade⟩
  · rintro (h | ⟨hnew, h⟩)
    · rwa [replaceAll_of_all hm h]
    · exact replaceAll_all_of_madeOf hm hnew h

end Replaced

end FeatureRun.Text

namespace FeatureRun.Spec
open FeatureRun.Text FeatureRun.Number FeatureRun.Data

namespace Bindings
variable {p : Char → Bool}

/-- At one of the bindings the text vanishes into `p`: the value is all in `p`, and what the
bindings before it leave of the text is made of characters in `p` and of the placeholder. -/
def Vanishes (p : Char → Bool) (bindings : Bindings) (s : List Char) : Prop :=
  ∃ before name value after, bindings = before ++ (name, value) :: after ∧
    value.toList.all p = true ∧ MadeOf p (placeholder name.toList) (substituteList before s)

private theorem vanishes_nil {s : List Char} : ¬ Vanishes p [] s := by
  rintro ⟨before, _, _, _, h, _⟩
  cases before <;> cases h

private theorem vanishes_cons {name value : String} {bindings : Bindings} {s : List Char} :
    Vanishes p ((name, value) :: bindings) s ↔
      (value.toList.all p = true ∧ MadeOf p (placeholder name.toList) s) ∨
        Vanishes p bindings (replaceAll (placeholder name.toList) value.toList s) := by
  constructor
  · rintro ⟨before, n, v, after, h, hv, hs⟩
    cases before with
    | nil =>
      cases h
      exact .inl ⟨hv, hs⟩
    | cons first before =>
      cases h
      exact .inr ⟨before, n, v, after, rfl, hv, hs⟩
  · rintro (⟨hv, hs⟩ | ⟨before, n, v, after, rfl, hv, hs⟩)
    · exact ⟨[], name, value, bindings, rfl, hv, hs⟩
    · exact ⟨(name, value) :: before, n, v, after, rfl, hv, hs⟩

private theorem replaceAll_placeholder_all_iff (hp : p '$' = false) {name new s : List Char} :
    (replaceAll (placeholder name) new s).all p = true ↔
      s.all p = true ∨ new.all p = true ∧ MadeOf p (placeholder name) s :=
  replaceAll_all_iff hp

theorem not_vanishes {bindings : Bindings} (h : ∀ b ∈ bindings, b.2.toList.all p = false)
    (s : List Char) : ¬ Vanishes p bindings s := by
  rintro ⟨before, name, value, after, rfl, hv, _⟩
  rw [h (name, value) (List.mem_append_right _ List.mem_cons_self)] at hv
  cases hv

/-- A text that has no place for a placeholder stays as it is. -/
private theorem substituteList_of_all (hp : p '$' = false) (bindings : Bindings) {s : List Char}
    (h : s.all p = true) : substituteList bindings s = s := by
  induction bindings with
  | nil => rfl
  | cons b bindings ih =>
    rw [substituteList, List.foldl_cons, placeholder, List.cons_append,
      replaceAll_of_all hp h]
    exact ih

/-- A text that is not all in `p` is so under the bindings exactly if it vanishes at one. -/
theorem substituteList_all_iff (hp : p '$' = false) (bindings : Bindings) {s : List Char}
    (h : s.all p = false) : (substituteList bindings s).all p = true ↔ Vanishes p bindings s := by
  induction bindings generalizing s with
  | nil =>
    have hs : substituteList [] s = s := rfl
    simp [hs, h, vanishes_nil]
  | cons b bindings ih =>
    obtain ⟨name, value⟩ := b
    let next := replaceAll (placeholder name.toList) value.toList s
    have hnext : next.all p = true ↔
        value.toList.all p = true ∧ MadeOf p (placeholder name.toList) s := by
      rw [replaceAll_placeholder_all_iff hp, h, Bool.false_eq_true, false_or]
    change (substituteList bindings next).all p = true ↔ _
    rw [vanishes_cons, ← hnext]
    cases hall : next.all p with
    | true => simp [substituteList_of_all hp bindings hall, hall]
    | false =>
      rw [ih hall]
      simp [next]

end Bindings

end FeatureRun.Spec
