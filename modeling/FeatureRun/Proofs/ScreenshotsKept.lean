import FeatureRun.Proofs.ScreenshotPlaces
import Mathlib.Data.List.Pairwise

/-!
Pictures that are overwritten. Within one spec no capture of a failure is written over another, but
the names of screenshot steps and of other specs' captures are made apart from it and may come to
the same. Main statement: `runSpecs_kept_iff`.
-/
namespace FeatureRun.Files

namespace Path

/-- Paths that differ in their last component alone are written alike up to there. -/
private theorem text_last (anchor : Anchor) (parts : List String) :
    ∃ front, ∀ x, (Path.mk anchor (parts ++ [x])).text = front ++ x := by
  have hparts : ∃ front, ∀ x, "/".intercalate (parts ++ [x]) = front ++ x := by
    induction parts with
    | nil => exact ⟨"", fun x => by simp⟩
    | cons part parts ih =>
      obtain ⟨front, hfront⟩ := ih
      refine ⟨part ++ "/" ++ front, fun x => ?_⟩
      obtain ⟨second, rest, hrest⟩ := List.exists_cons_of_ne_nil
        (List.append_ne_nil_of_right_ne_nil parts (List.cons_ne_nil x []))
      rw [List.cons_append, hrest, String.intercalate_cons_cons, ← hrest, hfront]
      exact String.append_assoc.symm
  obtain ⟨front, hfront⟩ := hparts
  refine ⟨Anchor.text anchor ++ front, fun x => ?_⟩
  have hne : (parts ++ [x]).isEmpty = false := by simp
  rw [text, hne, Bool.and_false, if_neg Bool.false_ne_true, hfront, String.append_assoc]

end Path

namespace Tree

/-- A walk that ends with a plain component ends right there. -/
private theorem walk_last {t : Tree} {start place : List String} {parts : List String} {x : String}
    (hx : x ≠ "..") (h : t.walk start (parts ++ [x]) = .ok place) :
    place.getLast? = some x := by
  induction parts generalizing start with
  | nil =>
    rw [List.nil_append, walk] at h
    split at h
    · cases h
    · cases h
    · rw [if_neg hx] at h
      split at h
      · cases h
      · cases h
        exact List.getLast?_concat
  | cons part parts ih =>
    rw [List.cons_append, walk] at h
    split at h
    · cases h
    · cases h
    · split at h
      · exact ih h
      · split at h
        · cases h
        · exact ih h

end Tree

end FeatureRun.Files

namespace FeatureRun.Run
open FeatureRun.Text FeatureRun.Data FeatureRun.Files FeatureRun.Spec FeatureRun.Browser

namespace IsPictureIn
variable {directory p q : Path}

private theorem eq_of_name (hp : IsPictureIn directory p) (hq : IsPictureIn directory q)
    (h : p.name = q.name) : p = q := by
  rw [hp.eq_mk, hq.eq_mk, h]

/-- Pictures of one directory are told apart by their paths as they are shown. -/
private theorem eq_of_text (hp : IsPictureIn directory p) (hq : IsPictureIn directory q)
    (h : p.text = q.text) : p = q := by
  obtain ⟨front, hfront⟩ := Path.text_last directory.anchor directory.parts
  rw [hp.eq_mk, hq.eq_mk, hfront, hfront] at h
  have hname := List.append_cancel_left
    (by simpa only [String.toList_append] using congrArg String.toList h)
  exact hp.eq_of_name hq (String.toList_injective hname)

/-- Pictures of one directory that lie in one place have one path. -/
private theorem eq_of_place (hp : IsPictureIn directory p) (hq : IsPictureIn directory q) {t : Tree}
    {place : List String} (h : t.locate p = .ok place) (h' : t.locate q = .ok place) : p = q := by
  have hlast {r : Path} (hr : IsPictureIn directory r) (h : t.locate r = .ok place) :
      place.getLast? = some r.name := by
    rw [Tree.locate] at h
    split at h
    · cases h
    · rw [hr.parts] at h
      exact Tree.walk_last hr.notDots.2 h
  have hname := (hlast hp h).symm.trans (hlast hq h')
  exact hp.eq_of_name hq (Option.some.inj hname)

end IsPictureIn

/-- Texts that are joined by a hyphen come to the same exactly if the longer first one takes up what
the other's second one starts with. -/
private theorem hyphen_eq_iff {a b p q : String} (h : a ≠ b) :
    a ++ "-" ++ p = b ++ "-" ++ q ↔
      (∃ x, b = a ++ "-" ++ x ∧ p = x ++ "-" ++ q) ∨
      ∃ x, a = b ++ "-" ++ x ∧ q = x ++ "-" ++ p := by
  constructor
  · intro heq
    have hl := congrArg String.toList heq
    have hhyphen : "-".toList = ['-'] := rfl
    simp only [String.toList_append, hhyphen, List.append_assoc, List.singleton_append] at hl
    rcases List.append_eq_append_iff.mp hl with ⟨x, hb, hp⟩ | ⟨x, ha, hq⟩
    · cases x with
      | nil => exact (h (String.toList_injective (by rw [hb, List.append_nil]))).elim
      | cons c x =>
        obtain ⟨rfl, hp⟩ := List.cons.inj hp
        refine .inl ⟨String.ofList x, String.toList_injective ?_, String.toList_injective ?_⟩
        · simpa using hb
        · simpa using hp
    · cases x with
      | nil => exact (h (String.toList_injective (by rw [ha, List.append_nil]))).elim
      | cons c x =>
        obtain ⟨rfl, hq⟩ := List.cons.inj hq
        refine .inr ⟨String.ofList x, String.toList_injective ?_, String.toList_injective ?_⟩
        · simpa using ha
        · simpa using hq
  · rintro (⟨x, rfl, rfl⟩ | ⟨x, rfl, rfl⟩) <;> simp only [String.append_assoc]

def failurePart (scenario : String) (number : Option Nat) : String :=
  scenarioSlug scenario ++ numberSuffix number

/-- The picture of a failure has the name of another: of a step's, or of the picture of a failure
for a spec whose stem goes on, by a hyphen, as the first one's picture does, or the other way
about. -/
inductive SharesName : Origin → Origin → Prop
  | step {spec : Path} {scenario text : String} {number : Option Nat} :
      screenshotFileName text = (Origin.failure spec scenario number).fileName →
      SharesName (.failure spec scenario number) (.step text)
  | longer {spec spec' : Path} {scenario scenario' x : String} {number number' : Option Nat} :
      spec'.stem = spec.stem ++ "-" ++ x →
      failurePart scenario number = x ++ "-" ++ failurePart scenario' number' →
      SharesName (.failure spec scenario number) (.failure spec' scenario' number')
  | shorter {spec spec' : Path} {scenario scenario' x : String} {number number' : Option Nat} :
      spec.stem = spec'.stem ++ "-" ++ x →
      failurePart scenario' number' = x ++ "-" ++ failurePart scenario number →
      SharesName (.failure spec scenario number) (.failure spec' scenario' number')

/-- For specs with stems of their own the names of pictures are the same exactly as it is said. -/
theorem sharesName_iff {spec : Path} {scenario : String} {number : Option Nat} {origin : Origin}
    (h : ∀ spec' scenario' number', origin = .failure spec' scenario' number' →
      spec.stem ≠ spec'.stem) :
    SharesName (.failure spec scenario number) origin ↔
      (Origin.failure spec scenario number).fileName = origin.fileName := by
  cases origin with
  | step text =>
    constructor
    · rintro ⟨heq⟩
      exact heq.symm
    · exact fun heq => .step heq.symm
  | failure spec' scenario' number' =>
    have hcut (p x q : String) : p ++ ".png" = x ++ "-" ++ (q ++ ".png") ↔ p = x ++ "-" ++ q := by
      rw [← String.append_assoc, String.append_left_inj]
    rw [Origin.fileName, Origin.fileName, hyphen_eq_iff (h spec' scenario' number' rfl)]
    simp only [hcut]
    constructor
    · intro hshares
      cases hshares with
      | longer hstem hpart => exact .inl ⟨_, hstem, hpart⟩
      | shorter hstem hpart => exact .inr ⟨_, hstem, hpart⟩
    · rintro (⟨x, hstem, hpart⟩ | ⟨x, hstem, hpart⟩)
      · exact .longer hstem hpart
      · exact .shorter hstem hpart

/-- Two captures for one spec do not share a name by what their specs are called. -/
private theorem SharesName.stem_ne {spec spec' : Path} {scenario scenario' : String}
    {number number' : Option Nat}
    (h : SharesName (.failure spec scenario number) (.failure spec' scenario' number')) :
    spec.stem ≠ spec'.stem := by
  have hlonger (a x : String) : a ≠ a ++ "-" ++ x := by
    intro he
    have hlen := congrArg String.length he
    simp only [String.length_append, show "-".length = 1 from rfl] at hlen
    omega
  cases h with
  | longer hstem _ => exact fun he => hlonger spec.stem _ (he.trans hstem)
  | shorter hstem _ => exact fun he => hlonger spec'.stem _ (he.symm.trans hstem)

/-- No picture of a failure is reported, and so written, a second time. -/
def Kept (pictures : List Picture) : Prop :=
  pictures.Pairwise fun a b => a.ofFailure = true → a.file ≠ b.file

instance (pictures : List Picture) : Decidable (Kept pictures) :=
  inferInstanceAs (Decidable (pictures.Pairwise _))

def picturesIn (w w' : World) : List Picture :=
  (w'.notices.drop w.notices.length).filterMap Notice.picture?

private theorem Pictured.picturesIn_eq {w w' : World} {shots : List Shot}
    (h : Pictured w shots w') :
    picturesIn w w' = (takenOf shots).map Shot.picture := by
  obtain ⟨added, hadded, hshown⟩ := h.notices
  rw [picturesIn, hadded, List.drop_left, hshown]

/-- Shots of one directory are reported alike exactly if their names are the same. -/
private theorem text_eq_iff {s t : Shot} (hd : s.directory = t.directory)
    (hs : IsPictureName s.origin.fileName) (ht : IsPictureName t.origin.fileName) :
    s.path.text = t.path.text ↔ s.origin.fileName = t.origin.fileName := by
  obtain ⟨hsin, hsname⟩ := hs.isPictureIn t.directory
  obtain ⟨htin, htname⟩ := ht.isPictureIn t.directory
  rw [Shot.path, Shot.path, hd]
  constructor
  · intro htext
    rw [← hsname, ← htname, hsin.eq_of_text htin htext]
  · intro hname
    rw [hname]

/-- A picture of a failure is not reported again by another shot exactly if the two do not share a
name. -/
private theorem kept_iff_not_sharesName {s t : Shot} (hd : s.directory = t.directory)
    (hs : IsPictureName s.origin.fileName) (ht : IsPictureName t.origin.fileName)
    (hapart : Apart s t)
    (hstems : ∀ spec scenario number spec' scenario' number',
      s.origin = .failure spec scenario number → t.origin = .failure spec' scenario' number' →
      spec.stem = spec'.stem → spec = spec') :
    (s.picture.ofFailure = true → s.picture.file ≠ t.picture.file) ↔
      ¬ SharesName s.origin t.origin := by
  simp only [Shot.picture_ofFailure, Shot.picture_file, ne_eq, text_eq_iff hd hs ht]
  cases hso : s.origin with
  | step text => exact iff_of_true nofun nofun
  | failure spec scenario number =>
    rw [imp_iff_right (show (Origin.failure spec scenario number).isFailure = true from rfl)]
    by_cases hsame : ∃ spec' scenario' number', t.origin = .failure spec' scenario' number' ∧
        spec.stem = spec'.stem
    · obtain ⟨spec', scenario', number', hto, hstem⟩ := hsame
      have hspec := hstems spec scenario number spec' scenario' number' hso hto hstem
      subst hspec
      refine iff_of_true (fun hname => ?_) fun hshares => ?_
      · have hpath : s.path = t.path := by rw [Shot.path, Shot.path, hd, hso, hname]
        exact hapart spec scenario number scenario' number' hso hto hpath
      · rw [hto] at hshares
        exact hshares.stem_ne hstem
    · have hstem : ∀ spec' scenario' number', t.origin = .failure spec' scenario' number' →
          spec.stem ≠ spec'.stem := fun spec' scenario' number' hto hstem =>
        hsame ⟨spec', scenario', number', hto, hstem⟩
      rw [sharesName_iff hstem]

/-- With the stems of its spec files pairwise different, a run in one directory keeps every picture of
a failure that it reports exactly if no picture that is taken later shares its name. The pictures
that are asked for, written and reported are those of the shots, in their order; captures for one
spec never have one path, and pictures with different paths never lie in one place. -/
theorem runSpecs_kept_iff (o : Options) (summary : Summary) (directory : Path)
    (files : List String) (w : World)
    (hdirectory : ∀ file ∈ files, (Path.ofString file).parent = directory)
    (hstems : (files.map fun file => (Path.ofString file).stem).Nodup) :
    let w' := (outcome (runSpecs o summary (files.map Path.ofString)) w).2
    ∃ shots, Pictured w shots w' ∧
      (∀ s ∈ shots, ∃ file ∈ files, ShotIn o (Path.ofString file) s) ∧ shots.Pairwise Apart ∧
      (∀ s ∈ shots, ∀ t ∈ shots, ∀ (tree : Tree) place,
        tree.locate s.path = .ok place → tree.locate t.path = .ok place → s.path = t.path) ∧
      (Kept (picturesIn w w') ↔
        (takenOf shots).Pairwise fun s t => ¬ SharesName s.origin t.origin) := by
  intro w'
  obtain ⟨shots, hshots, hof, hapart⟩ := runSpecs_shots o summary (files.map Path.ofString) w
  have hpaths : ((files.map Path.ofString).map Path.stem).Nodup := by rwa [List.map_map]
  have hapart := hapart (List.Nodup.of_map Path.stem hpaths)
  have hfile : ∀ s ∈ shots, ∃ file ∈ files, ShotIn o (Path.ofString file) s := fun s hs => by
    obtain ⟨path, hpath, hin⟩ := hof s hs
    obtain ⟨file, hmem, rfl⟩ := List.mem_map.mp hpath
    exact ⟨file, hmem, hin⟩
  have hdir {s : Shot} (hs : s ∈ shots) : s.directory = directory.join o.screenshotsDirname := by
    obtain ⟨file, hmem, hin⟩ := hfile s hs
    rw [hin.directory, screenshotDirectory, hdirectory file hmem]
  have hname {s : Shot} (hs : s ∈ shots) : IsPictureName s.origin.fileName := by
    obtain ⟨file, _, _, _, _, h⟩ := hfile s hs
    exact h.isPictureName
  have hin {s : Shot} (hs : s ∈ shots) :
      IsPictureIn (directory.join o.screenshotsDirname) s.path := by
    rw [Shot.path, hdir hs]
    exact ((hname hs).isPictureIn _).1
  have hspec {s : Shot} {spec : Path} {scenario : String} {number : Option Nat} (hs : s ∈ shots)
      (ho : s.origin = .failure spec scenario number) : spec ∈ files.map Path.ofString := by
    obtain ⟨path, hpath, hin⟩ := hof s hs
    rwa [hin.spec ho]
  have hpair {s t : Shot} (hs : s ∈ takenOf shots) (ht : t ∈ takenOf shots) (ha : Apart s t) :
      (s.picture.ofFailure = true → s.picture.file ≠ t.picture.file) ↔
        ¬ SharesName s.origin t.origin := by
    have hs := List.mem_of_mem_filter hs
    have ht := List.mem_of_mem_filter ht
    refine kept_iff_not_sharesName ((hdir hs).trans (hdir ht).symm) (hname hs) (hname ht) ha ?_
    intro spec scenario number spec' scenario' number' hso hto hstem
    exact List.inj_on_of_nodup_map hpaths (hspec hs hso) (hspec ht hto) hstem
  have htaken : (takenOf shots).Pairwise Apart := hapart.filter _
  refine ⟨shots, hshots, hfile, hapart, ?_, ?_⟩
  · intro s hs t ht tree place hplace hplace'
    exact (hin hs).eq_of_place (hin ht) hplace hplace'
  · rw [hshots.picturesIn_eq, Kept, List.pairwise_map]
    constructor
    · exact fun h => (htaken.and h).imp_of_mem fun hs ht hk => (hpair hs ht hk.1).mp hk.2
    · exact fun h => (htaken.and h).imp_of_mem fun hs ht hk => (hpair hs ht hk.1).mpr hk.2

/-- Two spec files, in each of which one click finds nothing. -/
def failingWorld (first second name name' : String) : World where
  page := {}
  files := {
    nodes := [
      ([first], .file ("feature: A\nscenarios: [\x7bname: " ++ name ++
        ", steps: [\x7bclick: X\x7d]\x7d]\n").toUTF8.toList),
      ([second], .file ("feature: B\nscenarios: [\x7bname: " ++ name' ++
        ", steps: [\x7bclick: Y\x7d]\x7d]\n").toUTF8.toList)]
    workingDirectory := [] }
  picks := ⟨[0], 0⟩

theorem runSpecs_kept_iff_cart :
    ∃ shots, Pictured (failingWorld "cart.yaml" "order.yaml" "Pay" "Pay") shots
        (outcome (runSpecs {} {} (["cart.yaml", "order.yaml"].map Path.ofString))
          (failingWorld "cart.yaml" "order.yaml" "Pay" "Pay")).2 ∧
      (takenOf shots).Pairwise fun s t => ¬ SharesName s.origin t.origin := by
  obtain ⟨shots, hshots, _, _, _, hkept⟩ := runSpecs_kept_iff {} {} (Path.ofString "")
    ["cart.yaml", "order.yaml"] (failingWorld "cart.yaml" "order.yaml" "Pay" "Pay")
    (by decide) (by decide +kernel)
  exact ⟨shots, hshots, hkept.mp (by decide +kernel)⟩

/-- Not every picture of a failure is kept: the stem of one spec may go on as another's scenario is
called. -/
theorem capture_overwritten :
    ¬ ∀ (o : Options) (summary : Summary) (directory : Path) (files : List String) (w : World),
      (∀ file ∈ files, (Path.ofString file).parent = directory) →
      (files.map fun file => (Path.ofString file).stem).Nodup →
      Kept (picturesIn w (outcome (runSpecs o summary (files.map Path.ofString)) w).2) := by
  intro h
  have hkept := h {} {} (Path.ofString "") ["a.yaml", "a-b.yaml"]
    (failingWorld "a.yaml" "a-b.yaml" "B C" "C") (by decide) (by decide +kernel)
  exact absurd hkept (by decide +kernel)

end FeatureRun.Run
