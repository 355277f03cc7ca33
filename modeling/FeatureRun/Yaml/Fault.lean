import FeatureRun.Data.Cast

/-!
Why a text is no document. A fault lies in the text's form; the other failures come from what is
well formed and has no value, or from what lies too deep.
-/
namespace FeatureRun.Yaml
open FeatureRun.Number FeatureRun.Data

/-- The level at which the form of a text goes wrong: characters, tokens, their order, the use of
anchors and documents, and what values can be built. -/
inductive Fault where
  | reader
  | scanner
  | order
  | composer
  | constructor
deriving DecidableEq, Repr

/-- The written name of a fault. -/
def Fault.text : Fault → String
  | .reader => "<ReaderError>"
  | .scanner => "<ScannerError>"
  | .order => "<ParserError>"
  | .composer => "<ComposerError>"
  | .constructor => "<ConstructorError>"

inductive Failure where
  | fault (f : Fault)
  | cast (e : CastError)
  | calendar (e : CalendarError)
  /-- A written code point beyond the last character. -/
  | codePoint (n : Nat)
  /-- A text marked as a time that is none. -/
  | noTime
  /-- Containers nest too deep, or too many mappings merge or stand in for one another. -/
  | tooDeep
deriving DecidableEq, Repr

end FeatureRun.Yaml
