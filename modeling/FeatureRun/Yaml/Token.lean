import FeatureRun.Text.CodePoint

/-!
The tokens of a document. Where a mapping begins, and where a block ends, is a token of its own, so
that indentation is no longer needed.
-/
namespace FeatureRun.Yaml
open FeatureRun.Text

inductive Directive where
  | version (major minor : Nat)
  /-- What a tag handle stands for. -/
  | handle (name meaning : List Char)
  | other
deriving DecidableEq, Repr

inductive Token where
  | directive (d : Directive)
  | documentStart
  | documentEnd
  | streamEnd
  | blockSequenceStart
  | blockMappingStart
  | blockEnd
  | flowSequenceStart
  | flowSequenceEnd
  | flowMappingStart
  | flowMappingEnd
  | flowEntry
  | blockEntry
  | key
  | value
  | alias (name : List Char)
  | anchor (name : List Char)
  /-- A tag that has no handle is written out in full. -/
  | tag (handle : Option (List Char)) (suffix : List Char)
  | scalar (text : List CodePoint) (plain : Bool)
deriving DecidableEq, Repr

end FeatureRun.Yaml
