import FeatureRun.CoreInstances
import FeatureRun.Proofs.Trimming
import FeatureRun.Run.Address

/-!
Addresses of pages. What is made of a base and a target names its scheme, so it stands for itself
from then on; slashes at the seam are no matter. Main statement: `resolveAddress_base`.
-/
namespace FeatureRun.Run
open FeatureRun.Text
open scoped FeatureRun.CoreInstances

def BeginsWith (s front : String) : Prop := ∃ rest, s = front ++ rest

def NamesScheme (address : String) : Prop :=
  BeginsWith address "http://" ∨ BeginsWith address "https://"

inductive IsBase : String → Prop
  | behind {scheme rest : String} : scheme = "http://" ∨ scheme = "https://" →
      (∃ c ∈ rest.toList, c ≠ '/') → IsBase (scheme ++ rest)

def IsSlashes (s : String) : Prop := ∀ c ∈ s.toList, c = '/'

section Lists
variable {base target : List Char}

private theorem isAbsolute_append {front : List Char} (h : isAbsolute front = true)
    (rest : List Char) :
    isAbsolute (front ++ rest) = true := by
  simp only [isAbsolute, Bool.or_eq_true, List.isPrefixOf_iff_prefix] at h ⊢
  exact h.imp (·.trans (List.prefix_append _ _)) (·.trans (List.prefix_append _ _))

private theorem resolveList_absolute (base : Option (List Char)) (h : isAbsolute target = true) :
    resolveList base target = target := by
  have hsome : target.isEmpty = false := by
    rw [List.isEmpty_eq_false_iff]
    rintro rfl
    cases h
  unfold resolveList
  rw [hsome, if_neg Bool.false_ne_true, if_pos h]

/-- A target without a scheme is put behind the base. -/
private theorem resolveList_relative (hbase : base ≠ []) (htarget : target ≠ [])
    (h : isAbsolute target = false) :
    resolveList (some base) target = joinAddress base target := by
  rw [resolveList, List.isEmpty_eq_false_iff.mpr htarget, h, List.isEmpty_eq_false_iff.mpr hbase]
  rfl

end Lists

private theorem beginsWith_iff {s front : String} :
    BeginsWith s front ↔ front.toList <+: s.toList := by
  constructor
  · rintro ⟨rest, rfl⟩
    exact ⟨rest.toList, String.toList_append.symm⟩
  · rintro ⟨rest, hrest⟩
    refine ⟨String.ofList rest, ?_⟩
    rw [← String.toList_inj, String.toList_append, String.toList_ofList, hrest]

private theorem isAbsolute_iff (address : String) :
    isAbsolute address.toList = true ↔ NamesScheme address := by
  rw [isAbsolute, Bool.or_eq_true, List.isPrefixOf_iff_prefix, List.isPrefixOf_iff_prefix,
    ← beginsWith_iff, ← beginsWith_iff, NamesScheme]

section Bases
variable {base : String}

def baseFront (base : String) : List Char := trimRightWith (· == '/') base.toList

private theorem isAbsolute_baseFront (h : IsBase base) : isAbsolute (baseFront base) = true := by
  obtain ⟨hscheme, c, hc, hmore⟩ := h
  rename_i scheme rest
  have hfront : baseFront (scheme ++ rest) =
      scheme.toList ++ trimRightWith (· == '/') rest.toList := by
    rw [baseFront, String.toList_append]
    exact trimRightWith_append_of_exists ⟨c, hc, beq_eq_false_iff_ne.mpr hmore⟩
  rw [hfront]
  refine isAbsolute_append ?_ _
  rcases hscheme with rfl | rfl <;> decide

private theorem IsBase.ne_nil (h : IsBase base) : base.toList ≠ [] := by
  intro hnil
  have hfront := isAbsolute_baseFront h
  rw [baseFront, hnil] at hfront
  cases hfront

theorem IsBase.append {slashes : String} (h : IsBase base) : IsBase (base ++ slashes) := by
  obtain ⟨hscheme, c, hc, hmore⟩ := h
  rw [String.append_assoc]
  refine .behind hscheme ⟨c, ?_, hmore⟩
  rw [String.toList_append]
  exact List.mem_append_left _ hc

private theorem baseFront_append {slashes : String} (h : IsSlashes slashes) (base : String) :
    baseFront (base ++ slashes) = baseFront base := by
  rw [baseFront, String.toList_append]
  exact trimRightWith_append fun c hc => beq_iff_eq.mpr (h c hc)

end Bases

section Targets
variable {base target : String}

private theorem resolveAddress_absolute (base : Option String) (h : NamesScheme target) :
    resolveAddress base target = target := by
  rw [resolveAddress, resolveList_absolute _ ((isAbsolute_iff target).mpr h), String.ofList_toList]

/-- A target without a scheme stands behind the base, with one slash in between if it has none. -/
theorem resolveAddress_relative (hbase : IsBase base) (htarget : target ≠ "")
    (h : ¬ NamesScheme target) :
    (resolveAddress (some base) target).toList =
      if target.toList.head? = some '/' then baseFront base ++ target.toList
      else baseFront base ++ '/' :: target.toList := by
  have hrelative : isAbsolute target.toList = false := by
    rwa [← Bool.not_eq_true, isAbsolute_iff]
  rw [resolveAddress, String.toList_ofList, Option.map_some, resolveList_relative hbase.ne_nil
    (mt String.toList_eq_nil_iff.mp htarget) hrelative]
  rfl

private theorem namesScheme_resolveAddress (hbase : IsBase base) (htarget : target ≠ "") :
    NamesScheme (resolveAddress (some base) target) := by
  by_cases h : NamesScheme target
  · rwa [resolveAddress_absolute _ h]
  · rw [← isAbsolute_iff, resolveAddress_relative hbase htarget h]
    split <;> exact isAbsolute_append (isAbsolute_baseFront hbase) _

private theorem resolveAddress_slashes (hbase : IsBase base) (htarget : target ≠ "")
    {slashes : String}
    (h : IsSlashes slashes) :
    resolveAddress (some (base ++ slashes)) target = resolveAddress (some base) target := by
  by_cases hscheme : NamesScheme target
  · rw [resolveAddress_absolute _ hscheme, resolveAddress_absolute _ hscheme]
  · rw [← String.toList_inj, resolveAddress_relative hbase.append htarget hscheme,
      resolveAddress_relative hbase htarget hscheme, baseFront_append h]

private theorem beginsWith_slash_iff : BeginsWith target "/" ↔ target.toList.head? = some '/' := by
  rw [beginsWith_iff]
  change ['/'] <+: target.toList ↔ _
  cases target.toList with
  | nil => simp
  | cons c rest => simp [List.cons_prefix_cons, eq_comm]

/-- An address with a slash at its front has no scheme. -/
private theorem not_namesScheme_slash (target : String) : ¬ NamesScheme ("/" ++ target) := by
  rw [← isAbsolute_iff, String.toList_append]
  exact Bool.false_ne_true

/-- A target with neither a scheme nor a slash at its front stands behind the base and one slash. -/
private theorem resolveAddress_seam (hbase : IsBase base) (htarget : target ≠ "")
    (h : ¬ NamesScheme target) (hslash : ¬ BeginsWith target "/") :
    resolveAddress (some base) target = String.ofList (baseFront base) ++ "/" ++ target := by
  rw [← String.toList_inj, resolveAddress_relative hbase htarget h,
    if_neg (mt beginsWith_slash_iff.mpr hslash)]
  simp

private theorem resolveAddress_slash (hbase : IsBase base) (htarget : target ≠ "")
    (h : ¬ NamesScheme target) (hslash : ¬ BeginsWith target "/") :
    resolveAddress (some base) ("/" ++ target) = resolveAddress (some base) target := by
  have hsome : "/" ++ target ≠ "" := by
    intro hnone
    rw [← String.toList_eq_nil_iff, String.toList_append] at hnone
    cases hnone
  rw [resolveAddress_seam hbase htarget h hslash, ← String.toList_inj,
    resolveAddress_relative hbase hsome (not_namesScheme_slash target)]
  simp [String.toList_append]

end Targets

/-- An address that is made of a base and a target has a scheme, so it stands for itself behind any
base; slashes at the end of the base are no matter, nor is a slash in front of a target that has
neither. Such a target stands behind the base and exactly one slash. -/
theorem resolveAddress_base {base target : String} (hbase : IsBase base) (htarget : target ≠ "") :
    NamesScheme (resolveAddress (some base) target) ∧
      (∀ other, resolveAddress other (resolveAddress (some base) target) =
        resolveAddress (some base) target) ∧
      (∀ slashes, IsSlashes slashes →
        resolveAddress (some (base ++ slashes)) target = resolveAddress (some base) target) ∧
      (¬ NamesScheme target → ¬ BeginsWith target "/" →
        resolveAddress (some base) ("/" ++ target) = resolveAddress (some base) target ∧
        ∃ front slashes, base = front ++ slashes ∧ IsSlashes slashes ∧
          front.toList.getLast? ≠ some '/' ∧
          resolveAddress (some base) target = front ++ "/" ++ target) := by
  have hnames := namesScheme_resolveAddress hbase htarget
  refine ⟨hnames, fun other => resolveAddress_absolute other hnames,
    fun _ => resolveAddress_slashes hbase htarget, fun hscheme hslash => ?_⟩
  obtain ⟨slashes, hcut, hslashes⟩ := exists_trimRightWith (· == '/') base.toList
  refine ⟨resolveAddress_slash hbase htarget hscheme hslash, String.ofList (baseFront base),
    String.ofList slashes, ?_, fun c hc => ?_, fun hlast => ?_,
    resolveAddress_seam hbase htarget hscheme hslash⟩
  · rw [← String.ofList_append, baseFront, ← hcut, String.ofList_toList]
  · rw [String.toList_ofList] at hc
    exact eq_of_beq (hslashes c hc)
  · rw [String.toList_ofList] at hlast
    exact absurd (getLast?_trimRightWith _ _ _ hlast) (by decide)

/-- A base with two slashes at its end, and with three more. -/
theorem resolveAddress_base_login :
    IsBase "http://a.test//" ∧ "login" ≠ "" ∧ ¬ NamesScheme "login" ∧ ¬ BeginsWith "login" "/" ∧
      IsSlashes "///" ∧
      NamesScheme (resolveAddress (some "http://a.test//") "login") ∧
      resolveAddress (some "http://a.test//") "login" = "http://a.test/login" ∧
      resolveAddress (some "http://a.test//") "/login" = "http://a.test/login" ∧
      resolveAddress (some "http://a.test/////") "login" = "http://a.test/login" ∧
      resolveAddress none "http://a.test/login" = "http://a.test/login" := by
  have hbase : IsBase "http://a.test//" :=
    @IsBase.behind "http://" "a.test//" (.inl rfl) ⟨'a', by decide, by decide⟩
  have htarget : "login" ≠ "" := by decide
  have hscheme : ¬ NamesScheme "login" := by
    rw [← isAbsolute_iff]
    decide
  have hslash : ¬ BeginsWith "login" "/" := by
    rw [beginsWith_slash_iff]
    decide
  have hmore : IsSlashes "///" := by
    unfold IsSlashes
    decide
  have hjoined : resolveAddress (some "http://a.test//") "login" = "http://a.test/login" := by
    decide +kernel
  obtain ⟨hnames, hagain, hslashes, hseam⟩ := resolveAddress_base hbase htarget
  refine ⟨hbase, htarget, hscheme, hslash, hmore, hnames, hjoined,
    (hseam hscheme hslash).1.trans hjoined, (hslashes _ hmore).trans hjoined, ?_⟩
  rw [← hjoined, hagain]

end FeatureRun.Run
