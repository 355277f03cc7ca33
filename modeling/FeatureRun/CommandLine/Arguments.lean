import FeatureRun.Text.Digit
import FeatureRun.Text.Quoted
import FeatureRun.Text.Replace

/-!
The words of a command: spec files, and options among which only help is known. Spec files are
taken from the first run of words that are no options; two hyphens end the options.
-/
namespace FeatureRun.CommandLine
open FeatureRun.Text

/-- Why a command is not understood. -/
inductive UsageError where
  | noSpecs
  | unrecognized (words : List String)
  /-- Help takes no value. -/
  | value (given : String)
deriving DecidableEq, Repr

def UsageError.message : UsageError → String
  | .noSpecs => "the following arguments are required: specs"
  | .unrecognized words => "unrecognized arguments: " ++ " ".intercalate words
  | .value given => "argument -h/--help: ignored explicit argument " ++ quoted given

inductive Request where
  | run (specs : List String)
  | help
  | refused (e : UsageError)
deriving DecidableEq, Repr

/-- What a word is taken for. -/
inductive Word where
  | operand (s : String)
  /-- Two hyphens: what follows are operands. -/
  | marker
  /-- Help by its long name, perhaps with a value. -/
  | longHelp (value : Option String)
  /-- Help by its letter, perhaps with more behind it. -/
  | shortHelp (more : Option String)
  | unknown (s : String)
deriving DecidableEq, Repr

/-- The text before the first equals sign, and the one behind it if there is one. -/
def splitValue (s : List Char) : List Char × Option String :=
  match s.span (· != '=') with
  | (name, _ :: value) => (name, some (String.ofList value))
  | (name, []) => (name, none)

/-- A negative number, which is no option. A line feed at its end does not count. -/
def isNegativeNumber (s : List Char) : Bool :=
  let isDecimal (c : Char) : Bool := (digitValue? c).isSome
  match s with
  | '-' :: body =>
    let body := if body.getLast? = some '\n' then body.dropLast else body
    let (whole, rest) := body.span isDecimal
    match rest with
    | [] => !whole.isEmpty
    | c :: fraction => c == '.' && !fraction.isEmpty && fraction.all isDecimal
  | _ => false

/-- What is no known option: an operand if it is a number or holds a space. -/
def unknownOrOperand (s : String) : Word :=
  if isNegativeNumber s.toList || s.toList.contains ' ' then .operand s else .unknown s

/-- What a word before two hyphens is taken for. A long option may be shortened. -/
def Word.of (s : String) : Word :=
  match s.toList with
  | '-' :: '-' :: r =>
    if r.isEmpty then .marker
    else
      let (name, value) := splitValue s.toList
      if name.isPrefixOf "--help".toList then .longHelp value else unknownOrOperand s
  | '-' :: 'h' :: r =>
    match r with
    | [] => .shortHelp none
    | '=' :: value => .shortHelp (some (String.ofList value))
    | more => .shortHelp (some (String.ofList more))
  | '-' :: _ :: _ => unknownOrOperand s
  | _ => .operand s

/-- The words with what they are taken for. -/
def Word.all : List String → List Word
  | [] => []
  | s :: r =>
    if Word.of s = .marker then .marker :: r.map .operand else Word.of s :: Word.all r

/-- More letters behind the letter of help: each asks for help again, and any other text is a value
that help does not take. -/
def moreHelp (more : List Char) : Request :=
  match more with
  | ['h'] => .help
  | 'h' :: c :: r => moreHelp (c :: r)
  | more => .refused (.value (String.ofList more))

/-- Words that are not options. -/
def Word.isPlain : Word → Bool
  | .operand _ | .marker => true
  | _ => false

/-- The word as it was given. -/
def Word.text : Word → String
  | .operand s => s
  | .unknown s => s
  | _ => "--"

/-- The specs that a run of plain words names; a run that is only a marker names none. -/
def specsOf (run : List Word) : Option (List String) :=
  let operands := run.filterMap fun w =>
    match w with
    | .operand s => some s
    | _ => none
  if operands.isEmpty then none else some operands

/-- What a command asks for, given the specs that have been named and the words that were not
recognized. The first run of plain words names the specs; later ones are not recognized. The first
argument bounds the number of words. -/
def request : Nat → Option (List String) → List String → List Word → Request
  | 0, none, _, _ => .refused .noSpecs
  | 0, some specs, [], _ => .run specs
  | 0, some _, extra, _ => .refused (.unrecognized extra)
  | n + 1, specs, extra, words =>
    match words with
    | [] => request 0 specs extra []
    | .longHelp none :: _ | .shortHelp none :: _ => .help
    | .longHelp (some value) :: _ => .refused (.value value)
    | .shortHelp (some more) :: _ => moreHelp more.toList
    | .unknown s :: rest => request n specs (extra ++ [s]) rest
    | words =>
      let run := words.takeWhile Word.isPlain
      let rest := words.drop run.length
      match specs, specsOf run with
      | none, some named => request n (some named) extra rest
      | specs, _ => request n specs (extra ++ run.map Word.text) rest

/-- What a command asks for. -/
def Request.of (arguments : List String) : Request :=
  request (arguments.length + 1) none [] (Word.all arguments)

end FeatureRun.CommandLine
