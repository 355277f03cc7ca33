import FeatureRun.Yaml.Grammar
import FeatureRun.Yaml.NodeValue
import FeatureRun.Yaml.TokenStream

/-!
Documents: a text with unified line ends, and the value that it describes.
-/
namespace FeatureRun.Yaml
open FeatureRun.Data

/-- What may stand in a document: no control characters besides the tab and the line ends, and no
noncharacters at the end of the first plane. -/
def isDocumentChar (c : Char) : Bool :=
  let n := c.toNat
  n == 0x9 || n == 0xA || n == 0xD || (0x20 ≤ n && n ≤ 0x7E) || n == 0x85 ||
    (0xA0 ≤ n && n ≤ 0xFFFD) || 0x10000 ≤ n

/-- The document that a text describes, if it describes one. -/
def Document.ofText (s : List Char) : Except Failure (Option Document) :=
  if s.all isDocumentChar then
    let (ts, failure) := tokens s
    Document.ofTokens ts failure
  else .error (.fault .reader)

/-- The value that a text describes. -/
def readDocument (s : List Char) : Except Failure Value := do
  match ← Document.ofText s with
  | some d => d.value
  | none => .ok .null

end FeatureRun.Yaml
