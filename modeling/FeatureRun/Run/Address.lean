import FeatureRun.Text.Blank

/-!
Addresses of pages. A target that names its scheme stands alone; any other target is put behind the
base with exactly one slash between them where the target has none.
-/
namespace FeatureRun.Run
open FeatureRun.Text

/-- The address starts with the scheme of a web page. -/
def isAbsolute (address : List Char) : Bool :=
  "http://".toList.isPrefixOf address || "https://".toList.isPrefixOf address

/-- Puts a target behind a base. -/
def joinAddress (base target : List Char) : List Char :=
  let front := trimRightWith (· == '/') base
  if target.head? = some '/' then front ++ target else front ++ '/' :: target

/-- The address that a target names, given the base if there is one. -/
def resolveList (base : Option (List Char)) (target : List Char) : List Char :=
  if target.isEmpty then []
  else if isAbsolute target then target
  else
    match base with
    | none => target
    | some base => if base.isEmpty then target else joinAddress base target

def resolveAddress (base : Option String) (target : String) : String :=
  String.ofList (resolveList (base.map String.toList) target.toList)

end FeatureRun.Run
