import FeatureRun.Files.Path
import FeatureRun.Text.Blank
import FeatureRun.Text.LowerCase
import FeatureRun.Text.Word

/-!
Names of screenshots: of a screenshot step, and of a failed scenario. Within one spec no two
scenarios get the same path.
-/
namespace FeatureRun.Run
open FeatureRun.Text FeatureRun.Files

/-- The text trimmed, in small letters, with a hyphen for every run of blanks. -/
def hyphenated (s : List Char) : List Char := lowerList (squeeze isBlank '-' (trim s))

/-- What may stand in the name of a screenshot step. -/
def isPlainNameChar (c : Char) : Bool :=
  ('a' ≤ c && c ≤ 'z') || ('0' ≤ c && c ≤ '9') || c == '_' || c == '.' || c == '-'

/-- The stem of a screenshot step's name. -/
def screenshotStem (s : List Char) : List Char :=
  let stem := trimWith (· == '_') (squeeze (fun c => !isPlainNameChar c) '_' (hyphenated s))
  if stem.isEmpty then "screenshot".toList else stem

def imageSuffix : List Char := ".png".toList

/-- The file name for a screenshot step. -/
def screenshotFileName (name : String) : String :=
  let stem := screenshotStem name.toList
  String.ofList (if imageSuffix.isSuffixOf stem then stem else stem ++ imageSuffix)

/-- What may stand in the name of a failed scenario's screenshot. -/
def isNameChar (c : Char) : Bool := isWord c || c == '.' || c == '-'

/-- The part of a file name that stands for a scenario. -/
def scenarioSlug (name : String) : String :=
  String.ofList (squeeze (fun c => !isNameChar c) '_' (hyphenated name.toList))

/-- The directory for the screenshots of a spec. -/
def screenshotDirectory (spec : Path) (dirname : String) : Path := spec.parent.join dirname

/-- The path of the screenshot of a scenario that failed. -/
def failurePath (spec : Path) (scenario dirname : String) : Path :=
  (screenshotDirectory spec dirname).join (spec.stem ++ "-" ++ scenarioSlug scenario ++ ".png")

/-- The path with a number behind its stem. -/
def numberedPath (p : Path) (n : Nat) : Path :=
  p.withName (p.stem ++ "-" ++ toString n ++ p.suffix)

/-- The first numbered path from `n` on that is not taken, among `tries` of them. -/
def firstFree (taken : List Path) (p : Path) : Nat → Nat → Path
  | n, 0 => numberedPath p n
  | n, tries + 1 =>
    if taken.contains (numberedPath p n) then firstFree taken p (n + 1) tries else numberedPath p n

/-- The path itself if it is not taken, and otherwise its first numbered form that is not, counted
from 2. One of the first `taken.length` forms behind the path is free. A taken path without a name
has no numbered form. -/
def uniquePath? (taken : List Path) (p : Path) : Option Path :=
  if taken.contains p then
    if p.parts.isEmpty then none else some (firstFree taken p 2 taken.length)
  else some p

/-- The paths made unique one after the other. Fails with a path that cannot be made unique. -/
def uniquePaths : List Path → List Path → Except Path (List Path)
  | _, [] => .ok []
  | taken, p :: ps =>
    match uniquePath? taken p with
    | none => .error p
    | some q => (uniquePaths (q :: taken) ps).map (q :: ·)

end FeatureRun.Run
