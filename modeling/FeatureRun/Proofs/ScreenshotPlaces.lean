import FeatureRun.Proofs.ScreenshotLog

/-!
Places of screenshots. Whatever a spec holds, its screenshots are files right below its screenshots
directory: no name that is made of a text has a separator in it, and none stands for a directory.
Main statement: `runSpec_pictures`.
-/
namespace FeatureRun.Text

theorem not_mem_split {α : Type} [DecidableEq α] {sep : α} {s piece : List α}
    (h : piece ∈ split sep s) : sep ∉ piece := by
  induction s generalizing piece with
  | nil =>
    rw [List.mem_singleton.mp h]
    exact List.not_mem_nil
  | cons c s ih =>
    rw [split] at h
    split at h
    · rcases List.mem_cons.mp h with rfl | h
      · exact List.not_mem_nil
      · exact ih h
    · rename_i hc
      have hfirst (p : List α) (hp : sep ∉ p) : sep ∉ c :: p := fun hmem =>
        (List.mem_cons.mp hmem).elim (fun he => hc he.symm) hp
      cases hs : split sep s with
      | nil =>
        rw [hs] at h
        rw [List.mem_singleton.mp h]
        exact hfirst [] List.not_mem_nil
      | cons first rest =>
        rw [hs] at h ih
        rcases List.mem_cons.mp h with rfl | h
        · exact hfirst first (ih List.mem_cons_self)
        · exact ih (List.mem_cons_of_mem first h)

end FeatureRun.Text

namespace FeatureRun.Files.Path
open FeatureRun.Text

/-- The components of a written path have no separator. -/
private theorem slash_not_mem_parts {s part : String} (h : part ∈ (ofString s).parts) :
    '/' ∉ part.toList := by
  obtain ⟨piece, hpiece, rfl⟩ := List.mem_map.mp (List.mem_filter.mp h).1
  rw [String.toList_ofList]
  exact not_mem_split hpiece

private theorem slash_not_mem_stem (s : String) : '/' ∉ (ofString s).stem.toList := by
  intro h
  have hname : '/' ∈ (ofString s).name.toList := by
    rw [← stem_append_suffix, String.toList_append]
    exact List.mem_append_left _ h
  cases hlast : (ofString s).parts.getLast? with
  | none =>
    rw [name, hlast] at hname
    cases hname
  | some part =>
    rw [name, hlast] at hname
    exact slash_not_mem_parts (List.mem_of_getLast? hlast) hname

/-- A name without a separator, which does not stand for a directory, goes on from a path as one
more component. -/
theorem join_name (p : Path) {x : String} (hs : '/' ∉ x.toList) (hx : x ≠ "") (hd : x ≠ ".") :
    p.join x = ⟨p.anchor, p.parts ++ [x]⟩ := by
  have hkept : [x].filter (fun p => p != "" && p != ".") = [x] := by simp [hx, hd]
  have hparts : (ofString x).parts = [x] := by
    rw [ofString, split_of_not_mem hs, List.map_singleton, String.ofList_toList, hkept]
  have hanchor : (ofString x).anchor = .relative := by
    have hnone : x.toList.takeWhile (· == '/') = [] := by
      cases hl : x.toList with
      | nil => rfl
      | cons c rest =>
        have hc : (c == '/') = false := beq_eq_false_iff_ne.mpr fun he =>
          hs (hl ▸ he ▸ List.mem_cons_self)
        rw [List.takeWhile_cons, hc]
        rfl
    rw [ofString, anchorOf, hnone]
    rfl
  rw [join, append, hanchor, if_pos rfl, hparts]

end FeatureRun.Files.Path

namespace FeatureRun.Run
open FeatureRun.Text FeatureRun.Data FeatureRun.Files FeatureRun.Spec FeatureRun.Browser

structure IsPictureName (x : String) : Prop where
  noSlash : '/' ∉ x.toList
  suffix : ∃ stem, x = stem ++ ".png"

namespace IsPictureName
variable {x : String}

/-- A name with a suffix behind it stands for no directory. -/
theorem ne (h : IsPictureName x) : x ≠ "" ∧ x ≠ "." ∧ x ≠ ".." := by
  obtain ⟨stem, rfl⟩ := h.suffix
  have hmem : 'p' ∈ (stem ++ ".png").toList := by
    rw [String.toList_append]
    exact List.mem_append_right _ (by decide)
  refine ⟨?_, ?_, ?_⟩ <;> intro he <;> rw [he] at hmem <;> exact absurd hmem (by decide)

theorem join (h : IsPictureName x) (directory : Path) :
    directory.join x = ⟨directory.anchor, directory.parts ++ [x]⟩ :=
  directory.join_name h.noSlash h.ne.1 h.ne.2.1

end IsPictureName

private theorem screenshotStem_noSlash (s : List Char) : '/' ∉ screenshotStem s := by
  unfold screenshotStem
  dsimp only
  split
  · decide
  · intro h
    rcases mem_squeezeAfter (mem_trimWith h) with h | ⟨_, h⟩
    · exact absurd h (by decide)
    · exact absurd h (by decide)

theorem screenshotFileName_isPictureName (text : String) :
    IsPictureName (screenshotFileName text) := by
  have hstem := screenshotStem_noSlash text.toList
  unfold screenshotFileName
  dsimp only
  split
  · rename_i hsuffix
    obtain ⟨front, hfront⟩ := List.isSuffixOf_iff_suffix.mp hsuffix
    refine ⟨by rwa [String.toList_ofList], String.ofList front, ?_⟩
    rw [← hfront, String.ofList_append]
    rfl
  · refine ⟨?_, String.ofList (screenshotStem text.toList), ?_⟩
    · rw [String.toList_ofList, List.mem_append, not_or]
      exact ⟨hstem, by decide⟩
    · rw [String.ofList_append]
      rfl

private theorem numberSuffix_noSlash (number : Option Nat) :
    '/' ∉ (numberSuffix number).toList := by
  cases number with
  | none => decide
  | some n =>
    have hd := slash_not_mem_digits n
    have hn : '/' ∉ (toString n).toList := by rwa [Nat.toString_eq_repr, Nat.toList_repr]
    rw [numberSuffix, String.toList_append, List.mem_append, not_or]
    exact ⟨by decide, hn⟩

/-- What comes of a scenario's name is no matter if the stem of the spec has no separator. -/
private theorem failureFileName_isPictureName {spec : Path} (h : '/' ∉ spec.stem.toList)
    (scenario : String) (number : Option Nat) :
    IsPictureName (Origin.failure spec scenario number).fileName := by
  constructor
  · simp only [Origin.fileName, String.toList_append, List.mem_append, not_or]
    exact ⟨⟨h, by decide⟩, ⟨slash_not_mem_slug scenario, numberSuffix_noSlash number⟩, by decide⟩
  · refine ⟨spec.stem ++ "-" ++ (scenarioSlug scenario ++ numberSuffix number), ?_⟩
    simp only [Origin.fileName, String.append_assoc]

structure IsPictureIn (directory p : Path) : Prop where
  parent : p.parent = directory
  parts : p.parts = directory.parts ++ [p.name]
  name : IsPictureName p.name
  notDots : p.name ≠ "." ∧ p.name ≠ ".."

theorem IsPictureIn.eq_mk {directory p : Path} (h : IsPictureIn directory p) :
    p = ⟨directory.anchor, directory.parts ++ [p.name]⟩ := by
  have hanchor : p.anchor = directory.anchor := by rw [← h.parent]; rfl
  rw [← hanchor, ← h.parts]

theorem IsPictureName.isPictureIn {x : String} (h : IsPictureName x) (directory : Path) :
    IsPictureIn directory (directory.join x) ∧ (directory.join x).name = x := by
  have hname : (directory.join x).name = x := by
    rw [h.join, Path.name, List.getLast?_concat, Option.getD_some]
  refine ⟨⟨?_, ?_, by rwa [hname], by rw [hname]; exact h.ne.2⟩, hname⟩
  · rw [h.join, Path.parent, List.dropLast_concat]
  · rw [hname, h.join]

def NamedAfter (spec p : Path) : Prop := ∃ rest, p.name = spec.stem ++ "-" ++ rest

theorem failureShot_isPictureIn (directory : Path) (file scenario : String) (number : Option Nat)
    (taken : Bool) {p : Path}
    (hp : p = Shot.path ⟨directory, .failure (Path.ofString file) scenario number, taken⟩) :
    IsPictureIn directory p ∧ NamedAfter (Path.ofString file) p := by
  have hname := failureFileName_isPictureName (Path.slash_not_mem_stem file) scenario number
  obtain ⟨hin, heq⟩ := hname.isPictureIn directory
  rw [hp, Shot.path]
  exact ⟨hin, _, heq⟩

theorem ShotOf.isPictureName {ctx : Context} {file : String} {scenarios : List Scenario} {s : Shot}
    (h : ShotOf ctx (Path.ofString file) scenarios s) : IsPictureName s.origin.fileName := by
  cases h with
  | step _ _ => exact screenshotFileName_isPictureName _
  | failure _ => exact failureFileName_isPictureName (Path.slash_not_mem_stem file) _ _

/-- The shots of a spec's scenarios are pictures in its directory, and those of failures are named
after it. -/
theorem ShotOf.isPictureIn {ctx : Context} {file : String} {scenarios : List Scenario} {s : Shot}
    (h : ShotOf ctx (Path.ofString file) scenarios s) :
    IsPictureIn ctx.screenshots s.path ∧
      (s.origin.isFailure = true → NamedAfter (Path.ofString file) s.path) := by
  cases h with
  | step _ _ =>
    exact ⟨((screenshotFileName_isPictureName _).isPictureIn ctx.screenshots).1, nofun⟩
  | failure _ =>
    obtain ⟨hin, hnamed⟩ := failureShot_isPictureIn ctx.screenshots file _ _ _ rfl
    exact ⟨hin, fun _ => hnamed⟩

/-- The paths that the failures of a spec are given are those of shots. -/
private theorem uniquePaths_shot {taken shots : List Path} {spec : Path} {dirname : String}
    {names : List String}
    (h : uniquePaths taken (names.map fun name => failurePath spec name dirname) = .ok shots) :
    ∀ q ∈ shots, ∃ scenario number, q =
      Shot.path ⟨screenshotDirectory spec dirname, .failure spec scenario number, true⟩ := by
  induction names generalizing taken shots with
  | nil =>
    cases h
    nofun
  | cons name names ih =>
    obtain ⟨q, rest, hq, hrest, rfl⟩ := uniquePaths_cons h
    intro p hp
    rcases List.mem_cons.mp hp with rfl | hp
    · obtain ⟨number, hnumber⟩ := uniquePath_shot hq
      exact ⟨name, number, hnumber⟩
    · exact ih hrest p hp

/-- The run of a spec asks for pictures right below its screenshots directory alone, whatever its
scenarios, texts and variables are; those of failures are named after the spec, as are the paths
that its scenarios are given for them. -/
theorem runSpec_pictures (spec : Spec) (file : String) (o : Options) (w : World) :
    let path := Path.ofString file
    let directory := screenshotDirectory path o.screenshotsDirname
    let w' := (outcome (runSpec spec path o) w).2
    (∃ added, w'.calls = w.calls ++ added ∧
      ∀ p full, .screenshot p full ∈ added → IsPictureIn directory p) ∧
    (∃ shots, Pictured w shots w' ∧ ∀ s ∈ shots,
      ShotOf (contextIn spec path o w) path spec.scenarios s ∧ IsPictureIn directory s.path ∧
        (s.origin.isFailure = true → NamedAfter path s.path)) ∧
    ∀ shots, shotPaths path o.screenshotsDirname (spec.scenarios.map Scenario.name) = .ok shots →
      ∀ p ∈ shots, IsPictureIn directory p ∧ NamedAfter path p := by
  intro path directory w'
  obtain ⟨shots, hshots, hof, _⟩ := runSpec_shots spec path o w
  refine ⟨?_, ⟨shots, hshots, fun s hs => ⟨hof s hs, (hof s hs).isPictureIn⟩⟩, ?_⟩
  · obtain ⟨added, hadded, hasked⟩ := hshots.calls
    refine ⟨added, hadded, fun p full hp => ?_⟩
    have hmem : p ∈ shots.map Shot.path := by
      rw [← hasked]
      exact List.mem_filterMap.mpr ⟨_, hp, rfl⟩
    obtain ⟨s, hs, hpath⟩ := List.mem_map.mp hmem
    exact hpath ▸ (hof s hs).isPictureIn.1
  · intro paths hpaths p hp
    rw [shotPaths] at hpaths
    obtain ⟨scenario, number, hshot⟩ := uniquePaths_shot hpaths p hp
    exact failureShot_isPictureIn directory file scenario number true hshot

end FeatureRun.Run
