import FeatureRun.Proofs.Placeholders
import Mathlib.Data.List.Basic

/-!
Replacement of all placeholders at once. A text whose marks begin placeholders is divided into
characters and placeholders. One variable after the other is replaced in it, and it stays divided
so, for a plain value cannot bring in a mark. Main statement: `substitute_atOnce`.
-/
namespace FeatureRun.Spec
open FeatureRun.Text FeatureRun.Number FeatureRun.Data

/-- The text has none of the characters that a placeholder is written with around its name. -/
def IsPlain (s : List Char) : Prop := ∀ c ∈ s, c ≠ '$' ∧ c ≠ '{' ∧ c ≠ '}'

instance (s : List Char) : Decidable (IsPlain s) :=
  List.decidableBAll _ s

/-- Every mark in the text begins a complete placeholder of a plain name. -/
def MarksBegin (s : List Char) : Prop :=
  ∀ before after, s = before ++ '$' :: after →
    ∃ name rest, IsPlain name ∧ '$' :: after = placeholder name ++ rest

inductive Fragment where
  | char (c : Char)
  | place (name : List Char)
deriving DecidableEq, Repr

namespace Fragment

def text : Fragment → List Char
  | .char c => [c]
  | .place name => placeholder name

def IsProper : Fragment → Prop
  | .char c => c ≠ '$'
  | .place name => IsPlain name

instance : DecidablePred IsProper
  | .char c => inferInstanceAs (Decidable (c ≠ '$'))
  | .place name => inferInstanceAs (Decidable (IsPlain name))

/-- What the variables at once put in the place of the fragment. -/
def filled (bindings : Bindings) : Fragment → List Char
  | .char c => [c]
  | .place name =>
    match bindings.lookup (String.ofList name) with
    | some value => value.toList
    | none => placeholder name

def put (name value : List Char) : Fragment → List Fragment
  | .char c => [.char c]
  | .place n => if n = name then value.map .char else [.place n]

end Fragment

structure Divides (fragments : List Fragment) (s : List Char) : Prop where
  proper : ∀ f ∈ fragments, f.IsProper
  text : fragments.flatMap Fragment.text = s

section Divisions

theorem MarksBegin.of_append {t r : List Char} (h : MarksBegin (t ++ r)) : MarksBegin r :=
  fun before after hr => h (t ++ before) after (by rw [hr, List.append_assoc])

theorem Divides.nil : Divides [] [] := ⟨nofun, rfl⟩

theorem Divides.cons {f : Fragment} {fs : List Fragment} {s : List Char} (hf : f.IsProper)
    (h : Divides fs s) : Divides (f :: fs) (f.text ++ s) where
  proper := List.forall_mem_cons.mpr ⟨hf, h.proper⟩
  text := by rw [List.flatMap_cons, h.text]

private theorem MarksBegin.divides {s : List Char} (h : MarksBegin s) : ∃ fs, Divides fs s := by
  induction hn : s.length using Nat.strongRecOn generalizing s with
  | ind n ih =>
    cases s with
    | nil => exact ⟨[], .nil⟩
    | cons c r =>
      by_cases hc : c = '$'
      · subst hc
        obtain ⟨name, rest, hname, hplace⟩ := h [] r rfl
        have hshort : rest.length < n := by
          rw [← hn, hplace, List.length_append, placeholder]
          simp only [List.length_cons, List.cons_append]
          omega
        obtain ⟨fs, hfs⟩ := ih _ hshort (MarksBegin.of_append (hplace ▸ h)) rfl
        exact ⟨.place name :: fs, hplace ▸ hfs.cons hname⟩
      · have hshort : r.length < n := by
          rw [← hn]
          exact Nat.lt_succ_self _
        obtain ⟨fs, hfs⟩ := ih _ hshort (MarksBegin.of_append (t := [c]) h) rfl
        exact ⟨.char c :: fs, hfs.cons (f := .char c) hc⟩

/-- The name and the brackets of a placeholder hold no mark. -/
private theorem no_mark_behind {name : List Char} (h : IsPlain name) :
    ∀ c ∈ '{' :: name ++ ['}'], c ≠ '$' := by
  simp only [List.cons_append, List.mem_cons, List.mem_append, List.not_mem_nil, or_false]
  rintro c (rfl | hc | rfl)
  · decide
  · exact (h c hc).1
  · decide

theorem MarksBegin.append {t r : List Char} (ht : ∀ c ∈ t, c ≠ '$') (h : MarksBegin r) :
    MarksBegin (t ++ r) := by
  intro before after hr
  rcases List.append_eq_append_iff.mp hr with ⟨between, _, hrest⟩ | ⟨between, rfl, hrest⟩
  · exact h between after hrest
  · cases between with
    | nil => exact h [] after hrest.symm
    | cons c between =>
      cases hrest
      exact absurd rfl (ht '$' (List.mem_append_right before List.mem_cons_self))

private theorem Divides.marksBegin {fs : List Fragment} {s : List Char} (h : Divides fs s) :
    MarksBegin s := by
  obtain ⟨hproper, rfl⟩ := h
  induction fs with
  | nil =>
    intro before after hs
    cases before <;> cases hs
  | cons f fs ih =>
    obtain ⟨hf, hfs⟩ := List.forall_mem_cons.mp hproper
    rw [List.flatMap_cons]
    cases f with
    | char c =>
      refine (ih hfs).append fun x hx => ?_
      rwa [List.mem_singleton.mp hx]
    | place name =>
      intro before after hs
      cases before with
      | nil => exact ⟨name, _, hf, hs.symm⟩
      | cons c before =>
        refine (ih hfs).append (no_mark_behind hf) before after ?_
        exact List.tail_eq_of_cons_eq hs

/-- Exactly the texts whose marks begin placeholders can be divided. -/
theorem marksBegin_iff_divides {s : List Char} : MarksBegin s ↔ ∃ fs, Divides fs s :=
  ⟨MarksBegin.divides, fun ⟨_, h⟩ => h.marksBegin⟩

end Divisions

section Replacing
variable {name value : List Char}

/-- A placeholder begins where another one stands only if it is that one. -/
private theorem eq_of_placeholder_begins {n r : List Char} (hname : IsPlain name) (hn : IsPlain n)
    (h : placeholder name <+: placeholder n ++ r) : n = name := by
  induction n generalizing name with
  | nil =>
    cases name with
    | nil => rfl
    | cons c name =>
      simp only [placeholder, List.cons_append, List.nil_append,
        List.cons_prefix_cons] at h
      exact absurd h.2.2.1 (hname c List.mem_cons_self).2.2
  | cons d n ih =>
    cases name with
    | nil =>
      simp only [placeholder, List.cons_append, List.nil_append,
        List.cons_prefix_cons] at h
      exact absurd h.2.2.1.symm (hn d List.mem_cons_self).2.2
    | cons c name =>
      simp only [placeholder, List.cons_append, List.cons_prefix_cons] at h
      have htail := ih (fun x hx => hname x (List.mem_cons_of_mem c hx))
        (fun x hx => hn x (List.mem_cons_of_mem d hx))
        (by simpa only [placeholder, List.cons_append, List.cons_prefix_cons,
          true_and] using h.2.2.2)
      rw [htail, h.2.2.1]

/-- What holds no mark is passed over. -/
private theorem replaceAll_append {t r : List Char} (h : ∀ c ∈ t, c ≠ '$') :
    replaceAll (placeholder name) value (t ++ r) =
      t ++ replaceAll (placeholder name) value r := by
  induction t with
  | nil => rfl
  | cons c t ih =>
    have hstart : ¬ placeholder name <+: c :: (t ++ r) := by
      rw [placeholder, List.cons_append, List.cons_prefix_cons]
      rintro ⟨hc, _⟩
      exact h c List.mem_cons_self hc.symm
    rw [List.cons_append, replaceAll_char hstart, ih fun x hx => h x (List.mem_cons_of_mem c hx),
      List.cons_append]

/-- The placeholder of another name is passed over as a whole. -/
theorem replaceAll_place {n r : List Char} (hname : IsPlain name) (hn : IsPlain n)
    (hne : n ≠ name) :
    replaceAll (placeholder name) value (placeholder n ++ r) =
      placeholder n ++ replaceAll (placeholder name) value r := by
  have hstart := mt (eq_of_placeholder_begins (r := r) hname hn) hne
  change ¬ _ <+: '$' :: ('{' :: n ++ ['}'] ++ r) at hstart
  change replaceAll _ value ('$' :: ('{' :: n ++ ['}'] ++ r)) = _
  rw [replaceAll_char hstart, replaceAll_append (no_mark_behind hn)]
  rfl

private theorem put_proper {f g : Fragment} (hvalue : IsPlain value) (hf : f.IsProper)
    (hg : g ∈ f.put name value) : g.IsProper := by
  cases f with
  | char c => rwa [List.mem_singleton.mp hg]
  | place n =>
    rw [Fragment.put] at hg
    split at hg
    · obtain ⟨c, hc, rfl⟩ := List.mem_map.mp hg
      exact (hvalue c hc).1
    · rwa [List.mem_singleton.mp hg]

private theorem flatMap_char (s : List Char) (g : Fragment → List Char)
    (hg : ∀ c, g (.char c) = [c]) :
    (s.map Fragment.char).flatMap g = s := by
  induction s with
  | nil => rfl
  | cons c s ih => rw [List.map_cons, List.flatMap_cons, hg, ih, List.singleton_append]

/-- Replacing one variable in a divided text leaves a text that is divided. -/
theorem Divides.replaceAll {fs : List Fragment} {s : List Char} (h : Divides fs s)
    (hname : IsPlain name) (hvalue : IsPlain value) :
    Divides (fs.flatMap (·.put name value))
      (replaceAll (placeholder name) value s) where
  proper g hg := by
    obtain ⟨f, hf, hg⟩ := List.mem_flatMap.mp hg
    exact put_proper hvalue (h.proper f hf) hg
  text := by
    obtain ⟨hproper, rfl⟩ := h
    rw [List.flatMap_assoc]
    induction fs with
    | nil => rfl
    | cons f fs ih =>
      obtain ⟨hf, hfs⟩ := List.forall_mem_cons.mp hproper
      rw [List.flatMap_cons, List.flatMap_cons, ih hfs]
      cases f with
      | char c =>
        have hc : ∀ x ∈ [c], x ≠ '$' := by
          rintro x hx
          rwa [List.mem_singleton.mp hx]
        exact (replaceAll_append hc).symm
      | place n =>
        by_cases hn : n = name
        · subst hn
          rw [Fragment.put, if_pos rfl, flatMap_char value _ fun _ => rfl]
          exact (replaceAll_part (List.cons_ne_nil _ _) _).symm
        · rw [Fragment.put, if_neg hn, List.flatMap_singleton]
          exact (replaceAll_place hname hf hn).symm

end Replacing

namespace Bindings
variable {bindings : Bindings}

private theorem filled_put (name value : String) (f : Fragment) :
    (f.put name.toList value.toList).flatMap (Fragment.filled bindings) =
      f.filled ((name, value) :: bindings) := by
  cases f with
  | char c => rfl
  | place n =>
    rw [Fragment.put, Fragment.filled, List.lookup_cons]
    by_cases hn : n = name.toList
    · have heq : String.ofList n = name := by rw [hn, String.ofList_toList]
      rw [if_pos hn, heq, beq_self_eq_true, flatMap_char _ _ fun _ => rfl]
    · have hne : (String.ofList n == name) = false := by
        rw [beq_eq_false_iff_ne]
        exact fun h => hn (by rw [← h, String.toList_ofList])
      rw [if_neg hn, hne, List.flatMap_singleton]
      rfl

/-- One after the other, plain bindings fill a divided text as they do at once. -/
theorem substituteList_divided (hplain : ∀ b ∈ bindings, IsPlain b.1.toList ∧ IsPlain b.2.toList)
    {fs : List Fragment} {s : List Char} (h : Divides fs s) :
    bindings.substituteList s = fs.flatMap (·.filled bindings) := by
  induction bindings generalizing fs s with
  | nil =>
    refine h.text.symm.trans (List.flatMap_congr fun f _ => ?_)
    cases f <;> rfl
  | cons b bindings ih =>
    obtain ⟨⟨hname, hvalue⟩, hplain⟩ := List.forall_mem_cons.mp hplain
    have hnext := ih hplain (h.replaceAll hname hvalue)
    rw [List.flatMap_assoc] at hnext
    exact hnext.trans (List.flatMap_congr fun f _ => filled_put b.1 b.2 f)

private theorem lookup_iff_mem (h : bindings.names.Nodup) {name value : String} :
    bindings.lookup name = some value ↔ (name, value) ∈ bindings := by
  induction bindings with
  | nil => simp
  | cons b bindings ih =>
    obtain ⟨n, x⟩ := b
    obtain ⟨hn, hrest⟩ := List.nodup_cons.mp h
    rw [List.lookup_cons, List.mem_cons, Prod.mk.injEq]
    by_cases hname : name = n
    · subst hname
      have hnone : (name, value) ∉ bindings := fun hmem =>
        hn (List.mem_map.mpr ⟨(name, value), hmem, rfl⟩)
      simp [hnone, eq_comm]
    · have hne : (name == n) = false := beq_eq_false_iff_ne.mpr hname
      simp only [hne, hname, false_and, false_or]
      exact ih hrest

end Bindings

namespace Variables
variable {vars : Variables}

private theorem lookup_perm {vars' : Variables} (hp : vars.bindings.Perm vars'.bindings)
    (name : String) : vars'.bindings.lookup name = vars.bindings.lookup name := by
  refine Option.ext fun value => ?_
  rw [Bindings.lookup_iff_mem vars.distinct, Bindings.lookup_iff_mem vars'.distinct, hp.mem_iff]

/-- Where names and values are plain and every mark of the text begins a placeholder, the text can
be divided into characters and placeholders, and each placeholder of a variable is replaced by its
value while all else stays as it is. So the order of the variables does not matter. -/
theorem substitute_atOnce
    (hvars : ∀ v ∈ vars.bindings, IsPlain v.1.toList ∧ IsPlain v.2.toList) {s : String}
    (hs : MarksBegin s.toList) :
    (∃ fs, Divides fs s.toList) ∧
      (∀ fs, Divides fs s.toList →
        (vars.substitute s).toList = fs.flatMap (·.filled vars.bindings)) ∧
      ∀ vars' : Variables, vars.bindings.Perm vars'.bindings →
        vars'.substitute s = vars.substitute s := by
  obtain ⟨fs, hfs⟩ := marksBegin_iff_divides.mp hs
  refine ⟨⟨fs, hfs⟩, fun fs hfs => ?_, fun vars' hp => ?_⟩
  · rw [substitute, Bindings.substitute, String.toList_ofList,
      Bindings.substituteList_divided hvars hfs]
  · have hvars' : ∀ v ∈ vars'.bindings, IsPlain v.1.toList ∧ IsPlain v.2.toList :=
      fun v hv => hvars v (hp.mem_iff.mpr hv)
    rw [substitute, substitute, Bindings.substitute, Bindings.substitute,
      Bindings.substituteList_divided hvars hfs, Bindings.substituteList_divided hvars' hfs]
    refine congrArg String.ofList (List.flatMap_congr fun f _ => ?_)
    cases f with
    | char c => rfl
    | place name => simp only [Fragment.filled, lookup_perm hp]

theorem substitute_atOnce_order :
    MarksBegin "$\x7bITEM\x7d$\x7bSIZE\x7d, $\x7bHUE\x7d\x7d".toList ∧
      (ofBindings [("SIZE", ""), ("ITEM", "Cap")]).substitute
        "$\x7bITEM\x7d$\x7bSIZE\x7d, $\x7bHUE\x7d\x7d" = "Cap, $\x7bHUE\x7d\x7d" := by
  have hs : MarksBegin "$\x7bITEM\x7d$\x7bSIZE\x7d, $\x7bHUE\x7d\x7d".toList :=
    marksBegin_iff_divides.mpr
      ⟨[.place "ITEM".toList, .place "SIZE".toList, .char ',', .char ' ', .place "HUE".toList,
        .char '}'], by decide, by decide⟩
  obtain ⟨_, _, horder⟩ :=
    @substitute_atOnce (ofBindings [("ITEM", "Cap"), ("SIZE", "")]) (by decide) _ hs
  have hswap := horder (ofBindings [("SIZE", ""), ("ITEM", "Cap")]) (by decide)
  exact ⟨hs, hswap.trans (by decide)⟩

end Variables

end FeatureRun.Spec
