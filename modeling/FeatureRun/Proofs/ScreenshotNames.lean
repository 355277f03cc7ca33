import FeatureRun.Proofs.Scenarios
import FeatureRun.Proofs.Trimming
import Mathlib.Data.List.Nodup
import Mathlib.Data.List.Perm.Subperm

/-!
Paths made unique. A path that is taken gets the least number that frees it. Fewer numbers are taken
than there are paths, so the search for it ends. Main statement: the scenarios of a spec have
screenshot paths that are pairwise distinct.
-/
namespace FeatureRun.Files.Path
open FeatureRun.Text

/-- A name is its stem and its suffix. -/
private theorem splitName_append (name : List Char) :
    (splitName name).1 ++ (splitName name).2 = name := by
  unfold splitName
  dsimp only
  split
  · exact List.append_nil name
  · rename_i h
    have hname := List.takeWhile_append_dropWhile (p := (· != '.')) (l := name.reverse)
    cases hd : name.reverse.dropWhile (· != '.') with
    | nil =>
      rw [hd, List.append_nil] at hname
      rw [hname, List.reverse_reverse] at h
      simp at h
    | cons c front =>
      have hc : c = '.' := by
        have := List.head?_dropWhile_not (· != '.') name.reverse
        simpa [hd] using this
      have hsplit : name = front.reverse ++
          '.' :: (name.reverse.takeWhile (· != '.')).reverse := by
        rw [hd, hc] at hname
        have := congrArg List.reverse hname
        simpa using this.symm
      generalize (name.reverse.takeWhile (· != '.')).reverse = tail at hsplit ⊢
      have hlen : name.length - tail.length - 1 = front.reverse.length := by
        rw [hsplit, List.length_append, List.length_cons]
        omega
      rw [hlen, hsplit, List.take_left']
      rfl

theorem stem_append_suffix (p : Path) : p.stem ++ p.suffix = p.name := by
  apply String.toList_injective
  simpa [stem, suffix] using splitName_append p.name.toList

/-- The last point of a name that does not start with it begins the suffix. -/
private theorem splitName_of_point {front tail : List Char} (hf : front ≠ []) (ht : tail ≠ [])
    (hp : '.' ∉ tail) : splitName (front ++ '.' :: tail) = (front, '.' :: tail) := by
  have htail : ((front ++ '.' :: tail).reverse.takeWhile (· != '.')).reverse = tail := by
    have hall : ∀ c ∈ tail.reverse, (c != '.') = true := by
      intro c hc
      rw [bne_iff_ne]
      rintro rfl
      exact hp (List.mem_reverse.mp hc)
    rw [List.reverse_append, List.reverse_cons, List.append_assoc,
      List.takeWhile_append_of_pos hall]
    simp
  have hlen : (front ++ '.' :: tail).length - tail.length - 1 = front.length := by
    rw [List.length_append, List.length_cons]
    omega
  have hne : tail.length ≠ (front ++ '.' :: tail).length := by
    rw [List.length_append, List.length_cons]
    omega
  unfold splitName
  simp only [htail, hlen, List.take_left']
  rw [if_neg]
  simpa [hf, ht] using hne

private theorem append_name (p : Path) (anchor : Anchor) (dirs : List String) (file : String) :
    (p.append ⟨anchor, dirs ++ [file]⟩).name = file := by
  cases anchor <;> simp [append, name]

private theorem append_withName (p : Path) (anchor : Anchor) (dirs : List String)
    (file other : String) :
    (p.append ⟨anchor, dirs ++ [file]⟩).withName other = p.append ⟨anchor, dirs ++ [other]⟩ := by
  cases anchor <;> simp [append, withName, ← List.append_assoc]

end FeatureRun.Files.Path

namespace FeatureRun.Run
open FeatureRun.Text FeatureRun.Data FeatureRun.Files FeatureRun.Spec FeatureRun.Browser

section Unique
variable {taken : List Path} {p q : Path}

private theorem toString_injective {m n : Nat} (h : toString m = toString n) : m = n := by
  have hd : Nat.toDigits 10 m = Nat.toDigits 10 n := by
    simpa only [Nat.toString_eq_repr, Nat.toList_repr] using congrArg String.toList h
  simpa using congrArg (fun ds => Nat.ofDigitChars 10 ds 0) hd

private theorem numberedPath_name (p : Path) (n : Nat) :
    (numberedPath p n).name = p.stem ++ "-" ++ toString n ++ p.suffix := by
  simp [numberedPath, Path.withName, Path.name]

private theorem numberedPath_injective {m n : Nat} (h : numberedPath p m = numberedPath p n) :
    m = n := by
  have hn := congrArg (fun q => q.name.toList) h
  simp only [numberedPath_name, String.toList_append] at hn
  have hd := List.append_cancel_left (List.append_cancel_right hn)
  exact toString_injective (String.toList_injective hd)

/-- A number makes the name longer. -/
private theorem numberedPath_ne (p : Path) (n : Nat) : numberedPath p n ≠ p := by
  intro h
  have hn := congrArg (fun q => q.name.length) h
  simp only [numberedPath_name, ← Path.stem_append_suffix p, String.length_append] at hn
  have hd : "-".length = 1 := rfl
  omega

/-- The search stops at the first number that frees the path, or it has tried as many as it was
given. -/
private theorem firstFree_search (taken : List Path) (p : Path) (n tries : Nat) :
    ∃ k, n ≤ k ∧ firstFree taken p n tries = numberedPath p k ∧
      (∀ m, n ≤ m → m < k → numberedPath p m ∈ taken) ∧
      (numberedPath p k ∉ taken ∨ k = n + tries) := by
  induction tries generalizing n with
  | zero =>
    refine ⟨n, Nat.le_refl n, rfl, ?_, .inr rfl⟩
    intro m hm hk
    omega
  | succ tries ih =>
    rw [firstFree]
    split
    · rename_i ht
      obtain ⟨k, hk, he, hall, hend⟩ := ih (n + 1)
      refine ⟨k, by omega, he, ?_, hend.imp_right fun h => by omega⟩
      intro m hm hlt
      rcases Nat.eq_or_lt_of_le hm with rfl | hm
      · exact List.contains_iff_mem.mp ht
      · exact hall m hm hlt
    · rename_i ht
      refine ⟨n, Nat.le_refl n, rfl, ?_, .inl fun h => ht (List.contains_iff_mem.mpr h)⟩
      intro m hm hk
      omega

/-- Each number that is taken, and the path itself, takes a place of its own. -/
private theorem numbers_taken {k : Nat} (hp : p ∈ taken)
    (h : ∀ m, 2 ≤ m → m < k → numberedPath p m ∈ taken) : k ≤ taken.length + 1 := by
  have hnodup : (p :: (List.range' 2 (k - 2)).map (numberedPath p)).Nodup := by
    refine List.nodup_cons.mpr ⟨?_, ?_⟩
    · intro hmem
      obtain ⟨n, _, hn⟩ := List.mem_map.mp hmem
      exact numberedPath_ne p n hn
    · exact List.Nodup.map (fun _ _ => numberedPath_injective) List.nodup_range'
  have hsub : p :: (List.range' 2 (k - 2)).map (numberedPath p) ⊆ taken := by
    refine List.cons_subset.mpr ⟨hp, ?_⟩
    intro q hq
    obtain ⟨n, hn, rfl⟩ := List.mem_map.mp hq
    rw [List.mem_range'_1] at hn
    exact h n (by omega) (by omega)
  have hlen := (List.subperm_of_subset hnodup hsub).length_le
  simp only [List.length_cons, List.length_map, List.length_range'] at hlen
  omega

/-- `q` stands for `p` where some paths are taken: it is `p` itself if that is free, and otherwise
`p` with the least number from 2 on that frees it. -/
structure IsFirstFree (taken : List Path) (p q : Path) : Prop where
  free : q ∉ taken
  plain : q = p ↔ p ∉ taken
  numbered : p ∈ taken → ∃ n, 2 ≤ n ∧ q = numberedPath p n ∧
    ∀ m, 2 ≤ m → m < n → numberedPath p m ∈ taken

private theorem IsFirstFree.of_mem_iff {other : List Path} (h : IsFirstFree taken p q)
    (hm : ∀ r, r ∈ taken ↔ r ∈ other) : IsFirstFree other p q := by
  obtain ⟨hfree, hplain, hnumbered⟩ := h
  simp only [hm] at hfree hplain hnumbered
  exact ⟨hfree, hplain, hnumbered⟩

theorem uniquePath_isFirstFree (h : uniquePath? taken p = some q) : IsFirstFree taken p q := by
  rw [uniquePath?] at h
  split at h
  · rename_i ht
    have hp : p ∈ taken := List.contains_iff_mem.mp ht
    split at h
    · cases h
    · obtain ⟨k, hk, he, hall, hend⟩ := firstFree_search taken p 2 taken.length
      have hbound := numbers_taken hp hall
      have hq : q = numberedPath p k := by rw [← he]; exact (Option.some.inj h).symm
      have hfree : numberedPath p k ∉ taken := by
        rcases hend with hfree | hend
        · exact hfree
        · omega
      subst hq
      refine ⟨hfree, ?_, fun _ => ⟨k, hk, rfl, hall⟩⟩
      exact iff_of_false (numberedPath_ne p k) fun hn => hn hp
  · rename_i ht
    have hp : p ∉ taken := fun hp => ht (List.contains_iff_mem.mpr hp)
    cases h
    exact ⟨hp, iff_of_true rfl hp, fun h => absurd h hp⟩

theorem uniquePaths_cons {ps shots : List Path} (h : uniquePaths taken (p :: ps) = .ok shots) :
    ∃ q rest, uniquePath? taken p = some q ∧ uniquePaths (q :: taken) ps = .ok rest ∧
      shots = q :: rest := by
  rw [uniquePaths] at h
  split at h
  · cases h
  · rename_i q hq
    cases hr : uniquePaths (q :: taken) ps with
    | error e =>
      rw [hr] at h
      cases h
    | ok rest =>
      rw [hr] at h
      cases h
      exact ⟨q, rest, hq, hr, rfl⟩

private theorem uniquePaths_nodup {ps shots : List Path} (h : uniquePaths taken ps = .ok shots) :
    shots.Nodup ∧ ∀ q ∈ shots, q ∉ taken := by
  induction ps generalizing taken shots with
  | nil =>
    cases h
    exact ⟨List.nodup_nil, fun q hq => absurd hq List.not_mem_nil⟩
  | cons p ps ih =>
    obtain ⟨q, rest, hq, hr, rfl⟩ := uniquePaths_cons h
    obtain ⟨hnodup, hfree⟩ := ih hr
    refine ⟨List.nodup_cons.mpr ⟨fun hmem => hfree q hmem List.mem_cons_self, hnodup⟩, ?_⟩
    intro r hr
    rcases List.mem_cons.mp hr with rfl | hr
    · exact (uniquePath_isFirstFree hq).free
    · exact fun ht => hfree r hr (List.mem_cons_of_mem q ht)

/-- A path is made unique by those before it, and by no other. -/
private theorem uniquePaths_at {before after shots : List Path}
    (h : uniquePaths taken (before ++ p :: after) = .ok shots) :
    ∃ earlier q later, shots = earlier ++ q :: later ∧ earlier.length = before.length ∧
      uniquePaths taken (before ++ [p]) = .ok (earlier ++ [q]) ∧
      IsFirstFree (earlier ++ taken) p q := by
  induction before generalizing taken shots with
  | nil =>
    obtain ⟨q, rest, hq, _, rfl⟩ := uniquePaths_cons h
    refine ⟨[], q, rest, rfl, rfl, ?_, uniquePath_isFirstFree hq⟩
    rw [List.nil_append, uniquePaths, hq]
    rfl
  | cons first before ih =>
    obtain ⟨q₁, rest, hq₁, hr, rfl⟩ := uniquePaths_cons h
    obtain ⟨earlier, q, later, rfl, hlen, hearlier, hfree⟩ := ih hr
    refine ⟨q₁ :: earlier, q, later, rfl, by rw [List.length_cons, hlen]; rfl, ?_, ?_⟩
    · rw [List.cons_append, uniquePaths, hq₁]
      dsimp only
      rw [hearlier]
      rfl
    · refine hfree.of_mem_iff fun r => ?_
      simp only [List.cons_append, List.mem_append, List.mem_cons]
      exact or_left_comm

end Unique

theorem slash_not_mem_slug (name : String) : '/' ∉ (scenarioSlug name).toList := by
  intro h
  rw [scenarioSlug, String.toList_ofList] at h
  rcases mem_squeezeAfter h with h | ⟨_, h⟩
  · exact absurd h (by decide)
  · exact absurd h (by decide +kernel)

theorem slash_not_mem_digits (n : Nat) : '/' ∉ Nat.toDigits 10 n := by
  intro h
  exact absurd (Nat.isDigit_of_mem_toDigits (by decide) (by decide) h) (by decide)

/-- What follows a hyphen without a slash is part of the last component. -/
private theorem ofString_hyphen (x : List Char) :
    ∃ anchor dirs last, ∀ z, '/' ∉ z → Path.ofString (String.ofList (x ++ '-' :: z)) =
      ⟨anchor, dirs ++ [String.ofList (last ++ '-' :: z)]⟩ := by
  obtain ⟨dirs, last, hx⟩ := Path.ofString_append x
  refine ⟨Path.anchorOf (x ++ ['-']), dirs, last, fun z hz => ?_⟩
  have hparts := hx ('-' :: z) (by simpa using hz) ⟨'-', List.mem_cons_self, by decide⟩
  have htake : (x ++ '-' :: z).takeWhile (· == '/') = (x ++ ['-']).takeWhile (· == '/') := by
    clear hx hparts
    induction x with
    | nil => rfl
    | cons c x ih => rw [List.cons_append, List.cons_append, List.takeWhile_cons,
        List.takeWhile_cons, ih]
  have hanchor : (Path.ofString (String.ofList (x ++ '-' :: z))).anchor =
      Path.anchorOf (x ++ ['-']) := by
    rw [Path.ofString, String.toList_ofList, Path.anchorOf, htake]
    rfl
  rw [← hparts, ← hanchor]

/-- The numbered form of a screenshot path has the number behind the scenario's part of the
name. -/
theorem numberedPath_failurePath (spec : Path) (name dirname : String) (n : Nat) :
    numberedPath (failurePath spec name dirname) n =
      (screenshotDirectory spec dirname).join
        (spec.stem ++ "-" ++ scenarioSlug name ++ "-" ++ toString n ++ ".png") := by
  obtain ⟨anchor, dirs, last, hfile⟩ := ofString_hyphen spec.stem.toList
  have hsuffix : '/' ∉ imageSuffix := by decide
  have hplain := hfile ((scenarioSlug name).toList ++ imageSuffix) (by
    simp [slash_not_mem_slug, hsuffix])
  have hnumber := hfile ((scenarioSlug name).toList ++ '-' :: (toString n).toList ++ imageSuffix)
    (by simp [slash_not_mem_slug, slash_not_mem_digits, hsuffix])
  have hs : spec.stem ++ "-" ++ scenarioSlug name ++ ".png" =
      String.ofList (spec.stem.toList ++ '-' :: ((scenarioSlug name).toList ++ imageSuffix)) := by
    apply String.toList_injective
    simp [imageSuffix]
  have hn : spec.stem ++ "-" ++ scenarioSlug name ++ "-" ++ toString n ++ ".png" =
      String.ofList (spec.stem.toList ++
        '-' :: ((scenarioSlug name).toList ++ '-' :: (toString n).toList ++ imageSuffix)) := by
    apply String.toList_injective
    simp [imageSuffix]
  have hname : Path.splitName (last ++ '-' :: ((scenarioSlug name).toList ++ imageSuffix)) =
      (last ++ '-' :: (scenarioSlug name).toList, imageSuffix) := by
    have hfront : last ++ '-' :: (scenarioSlug name).toList ≠ [] := by simp
    have hpoint := Path.splitName_of_point hfront (show "png".toList ≠ [] by decide) (by decide)
    rwa [List.append_assoc, List.cons_append] at hpoint
  have hlast : String.ofList (last ++ '-' :: (scenarioSlug name).toList) ++ "-" ++ toString n ++
      String.ofList imageSuffix = String.ofList
        (last ++ '-' :: ((scenarioSlug name).toList ++ '-' :: (toString n).toList ++
          imageSuffix)) := by
    apply String.toList_injective
    simp
  rw [failurePath, Path.join, Path.join, hs, hn, hplain, hnumber, numberedPath, Path.stem,
    Path.suffix, Path.append_name, String.toList_ofList, hname, Path.append_withName, hlast]

def shotPaths (spec : Path) (dirname : String) (names : List String) : Except Path (List Path) :=
  uniquePaths [] (names.map fun name => failurePath spec name dirname)

private theorem shotPaths_exist (taken : List Path) (spec : Path) (dirname : String)
    (names : List String) :
    ∃ shots, uniquePaths taken (names.map fun name => failurePath spec name dirname) =
      .ok shots := by
  induction names generalizing taken with
  | nil => exact ⟨[], rfl⟩
  | cons name names ih =>
    obtain ⟨shot, hs⟩ := uniquePath_failurePath taken spec name dirname
    obtain ⟨shots, hu⟩ := ih (shot :: taken)
    refine ⟨shot :: shots, ?_⟩
    rw [List.map_cons, uniquePaths, hs]
    dsimp only
    rw [hu]
    rfl

/-- Every scenario of a spec is given a screenshot path, and no two are given the same. It is the
scenario's own path unless an earlier scenario was given that, and then the one with the least
number from 2 on that no earlier scenario was given. The names of later scenarios do not matter. A
run of the scenarios takes its screenshots of failures at these paths. -/
theorem shotPaths_distinct (spec : Path) (dirname : String) (scenarios : List Scenario) :
    ∃ shots, shotPaths spec dirname (scenarios.map Scenario.name) = .ok shots ∧
      shots.length = scenarios.length ∧ shots.Nodup ∧
      (∀ before scenario after, scenarios = before ++ scenario :: after →
        ∃ earlier shot later, shots = earlier ++ shot :: later ∧
          earlier.length = before.length ∧
          shotPaths spec dirname (before.map Scenario.name ++ [scenario.name]) =
            .ok (earlier ++ [shot]) ∧
          IsFirstFree earlier (failurePath spec scenario.name dirname) shot) ∧
      (∀ name n, numberedPath (failurePath spec name dirname) n =
        (screenshotDirectory spec dirname).join
          (spec.stem ++ "-" ++ scenarioSlug name ++ "-" ++ toString n ++ ".png")) ∧
      ∀ ctx w, Course ctx (scenarios.zip shots) w
        (outcome (runScenarios ctx spec dirname [] scenarios) w).1
        (outcome (runScenarios ctx spec dirname [] scenarios) w).2 := by
  obtain ⟨shots, hshots⟩ := shotPaths_exist [] spec dirname (scenarios.map Scenario.name)
  have hlen := uniquePaths_length hshots
  rw [List.length_map, List.length_map] at hlen
  refine ⟨shots, hshots, hlen, (uniquePaths_nodup hshots).1, ?_,
    fun name n => numberedPath_failurePath spec name dirname n, ?_⟩
  · rintro before scenario after rfl
    rw [List.map_append, List.map_cons, List.map_append, List.map_cons] at hshots
    obtain ⟨earlier, shot, later, hsplit, hbefore, hearlier, hfree⟩ := uniquePaths_at hshots
    rw [List.length_map, List.length_map] at hbefore
    rw [List.append_nil] at hfree
    refine ⟨earlier, shot, later, hsplit, hbefore, ?_, hfree⟩
    rw [shotPaths, List.map_append]
    exact hearlier
  · intro ctx w
    obtain ⟨given, hgiven, hcourse⟩ := runScenarios_course ctx spec dirname [] scenarios w
    simp only [List.map_map, Function.comp_def] at hshots
    rw [hshots] at hgiven
    rw [Except.ok.inj hgiven]
    exact hcourse

/-- Two scenarios whose names come to the same, and one with the name that the second gets. -/
def loginScenarios : List Scenario :=
  ["Login", "LOGIN", "Login 2"].map fun name => { name, steps := [] }

theorem shotPaths_distinct_login :
    ∃ shots earlier shot, shotPaths (Path.ofString "auth.yaml") "shots"
        (loginScenarios.map Scenario.name) = .ok shots ∧
      shots.Nodup ∧ shots = earlier ++ [shot] ∧ earlier.length = 2 ∧
      IsFirstFree earlier (failurePath (Path.ofString "auth.yaml") "Login 2" "shots") shot := by
  obtain ⟨shots, hshots, hlen, hnodup, hat, _⟩ :=
    shotPaths_distinct (Path.ofString "auth.yaml") "shots" loginScenarios
  obtain ⟨earlier, shot, later, hsplit, hearlier, _, hfree⟩ :=
    hat (loginScenarios.take 2) { name := "Login 2", steps := [] } [] rfl
  have htwo : earlier.length = 2 := hearlier
  have hthree : shots.length = 3 := hlen
  have hlater : later = [] := by
    rw [hsplit, List.length_append, List.length_cons] at hthree
    exact List.length_eq_zero_iff.mp (by omega)
  exact ⟨shots, earlier, shot, hshots, hnodup, hlater ▸ hsplit, htwo, hfree⟩

example : (uniquePaths [] (["Login", "LOGIN", "Login 2"].map fun name =>
      failurePath (Path.ofString "auth.yaml") name "shots")).toOption =
    some (["shots/auth-login.png", "shots/auth-login-2.png", "shots/auth-login-2-2.png"].map
      Path.ofString) := by
  decide +kernel

end FeatureRun.Run
