/-!
Replacement of every occurrence of one text by another, from the left and without overlap. What
has been put in is not searched again.
-/
namespace FeatureRun.Text

variable (old new : List Char)

/-- Replaces the occurrences of `old` after the first `skip` characters, which are dropped: they
belong to an occurrence that has been replaced. -/
def replaceAfter : Nat → List Char → List Char
  | _, [] => []
  | skip + 1, _ :: r => replaceAfter skip r
  | 0, c :: r =>
    if old.isPrefixOf (c :: r) then new ++ replaceAfter (old.length - 1) r
    else c :: replaceAfter 0 r

/-- Replaces every occurrence of `old`, which is not empty. -/
def replaceAll (s : List Char) : List Char := replaceAfter old new 0 s

/-- Some part of `s` is `part`. -/
def contains (part : List Char) : List Char → Bool
  | [] => part.isEmpty
  | c :: r => part.isPrefixOf (c :: r) || contains part r

end FeatureRun.Text
