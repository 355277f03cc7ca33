import FeatureRun.Data.Json
import FeatureRun.Files.Tree
import FeatureRun.Spec.Spec
import FeatureRun.Text.Line
import FeatureRun.Text.Utf8
import FeatureRun.Yaml.Fault

/-!
Everything that can end a step, a scenario or a run, each with its kind and its text. A failure to
load a spec is counted by a run; an interrupt ends it.
-/
namespace FeatureRun.Run
open FeatureRun.Text FeatureRun.Number FeatureRun.Data FeatureRun.Files FeatureRun.Spec

/-- A failure that the browser reports. -/
structure BrowserError where
  timedOut : Bool
  message : String
deriving DecidableEq, Repr

def BrowserError.kind (e : BrowserError) : String := if e.timedOut then "TimeoutError" else "Error"

/-- The first line of a message without the blanks around it; the kind for a blank message. -/
def headline (kind : String) (message : List Char) : List Char :=
  if (trim message).isEmpty then kind.toList else firstLine (trim message)

/-- The first line of the browser's report. -/
def BrowserError.headline (e : BrowserError) : String :=
  String.ofList (Run.headline e.kind e.message.toList)

/-- What a text is waited to be. -/
inductive Visibility where
  | visible
  | hidden
deriving DecidableEq, Repr

def Visibility.name : Visibility → String
  | .visible => "visible"
  | .hidden => "hidden"

/-- A fault of the engine that drives the browser. -/
inductive EngineError where
  | during (doing : String) (cause : BrowserError)
  | asserting (wanted : Visibility) (text : String) (cause : BrowserError)
  /-- The name of the browser as it is shown. -/
  | unsupported (shown : String)
  | launch (browser : String) (cause : BrowserError)
  | close (browser : String) (cause : BrowserError)
  | directory (path : Path) (cause : FileError)
  | reported (message : String)
deriving DecidableEq, Repr

def EngineError.message : EngineError → String
  | .during doing cause => doing ++ ": " ++ cause.headline
  | .asserting wanted text cause =>
    "assert " ++ wanted.name ++ " " ++ quoted text ++ ": " ++ cause.message
  | .unsupported shown =>
    "Unsupported browser: " ++ shown ++ " (use chromium, firefox or webkit)"
  | .launch browser cause => "Could not launch " ++ browser ++ ": " ++ cause.message
  | .close browser cause => "Could not close " ++ browser ++ ": " ++ cause.message
  | .directory path cause =>
    "Cannot create screenshots directory " ++ path.text ++ ": " ++ cause.message
  | .reported message => message

/-- An expectation about the page that does not hold. -/
inductive AssertionError where
  | state (wanted : Visibility) (text : String) (timeout : String)
  | url (current wanted : String)
  | enabled (button : String)
  | disabled (button : String)
  | reported (message : String)
deriving DecidableEq, Repr

def AssertionError.message : AssertionError → String
  | .state wanted text timeout =>
    "Expected " ++ (match wanted with | .visible => "VISIBLE" | .hidden => "HIDDEN") ++ ": " ++
      quoted text ++ " (waited " ++ timeout ++ "ms)"
  | .url current wanted => "URL \"" ++ current ++ "\" does not contain \"" ++ wanted ++ "\""
  | .enabled button => "Expected button " ++ quoted button ++ " to be ENABLED, but it is disabled"
  | .disabled button => "Expected button " ++ quoted button ++ " to be DISABLED, but it is enabled"
  | .reported message => message

/-- Why a file gives no spec. -/
inductive LoadError where
  | missing (path : Path)
  | unreadable (path : Path) (e : FileError)
  | notUtf8 (path : Path) (f : Utf8Fault)
  | notYaml (path : Path) (f : Yaml.Fault)
  | spec (e : SpecError)
  | step (place : String) (e : StepError)
deriving DecidableEq, Repr

def LoadError.kind : LoadError → String
  | .missing _ | .unreadable _ _ => "SpecFileError"
  | .notUtf8 _ _ | .notYaml _ _ => "SpecParseError"
  | .spec (.step _ _ _) => "StepValidationError"
  | .spec _ => "SpecParseError"
  | .step _ _ => "StepValidationError"

def LoadError.message : LoadError → String
  | .missing path => "Spec file not found: " ++ path.text
  | .unreadable path e => "Cannot read spec file " ++ path.text ++ ": " ++ e.message
  | .notUtf8 path f => "Spec file " ++ path.text ++ " is not valid UTF-8: " ++ f.message
  | .notYaml path f => "Invalid YAML in " ++ path.text ++ ": " ++ f.text
  | .spec e => e.message
  | .step place e => e.message place

inductive Failure where
  | load (e : LoadError)
  | unknownAction (name : String)
  | locator (doing : String) (cause : BrowserError)
  | engine (e : EngineError)
  | assertion (e : AssertionError)
  | browser (e : BrowserError)
  | file (e : FileFailure)
  | system (message : String)
  | runtime (message : String)
  | interrupt (message : String)
  | cast (e : CastError)
  | json (e : JsonError)
  | calendar (e : CalendarError)
  | codePoint (n : Nat)
  /-- A value that lacks what is asked of it. -/
  | notSuch
  /-- A value that lies too deep. -/
  | tooDeep
  | noName (path : Path)
deriving DecidableEq, Repr

namespace Failure

/-- The failure of a conversion. -/
def conversion (e : ConversionError) : Failure := .cast (.conversion e)

/-- The failure of a text that is no document. -/
def ofYaml (path : Path) : Yaml.Failure → Failure
  | .fault f => .load (.notYaml path f)
  | .cast e => .cast e
  | .calendar e => .calendar e
  | .codePoint n => .codePoint n
  | .noTime => .notSuch
  | .tooDeep => .tooDeep

/-- The failure of a document that is no spec. -/
def ofSpec : SpecFailure → Failure
  | .refused e => .load (.spec e)
  | .conversion e => .conversion e

/-- The failure of a value that is no step. -/
def ofStep (place : String) : StepFailure → Failure
  | .refused e => .load (.step place e)
  | .conversion e => .conversion e

def isInterrupt : Failure → Bool
  | .interrupt _ => true
  | _ => false

/-- The kind of a failure on files. -/
def fileKind : FileFailure → String
  | .nullByte => "ValueError"
  | .file e =>
    match e.cause with
    | .missing => "FileNotFoundError"
    | .existing => "FileExistsError"
    | .notDirectory => "NotADirectoryError"
    | .isDirectory => "IsADirectoryError"
    | .nameTooLong => "OSError"

/-- The kind of a conversion that failed. -/
def castKind : CastError → String
  | .conversion .tooDeep => "RecursionError"
  | .conversion e => if e.isOverflow then "OverflowError" else "ValueError"
  | .wrongType => "TypeError"
  | .noIndex => "IndexError"
  | .noKey => "KeyError"

/-- The last number that a code point may be written as. -/
def lastWrittenCode : Nat := 0x7FFFFFFF

def kind : Failure → String
  | .load e => e.kind
  | .unknownAction _ => "UnknownActionError"
  | .locator _ _ => "LocatorError"
  | .engine _ => "EngineError"
  | .assertion _ => "AssertionError"
  | .browser e => e.kind
  | .file e => fileKind e
  | .system _ => "OSError"
  | .runtime _ => "RuntimeError"
  | .interrupt _ => "KeyboardInterrupt"
  | .cast e => castKind e
  | .json (.badKey _) => "TypeError"
  | .json .circular => "ValueError"
  | .json .tooDeep => "RecursionError"
  | .json (.conversion e) => castKind (.conversion e)
  | .calendar _ => "ValueError"
  | .codePoint n => if n ≤ lastWrittenCode then "ValueError" else "OverflowError"
  | .notSuch => "AttributeError"
  | .tooDeep => "RecursionError"
  | .noName _ => "ValueError"

def message : Failure → String
  | .load e => e.message
  | .unknownAction name => "Unknown action: " ++ name
  | .locator doing cause => doing ++ ": not found or not actionable (" ++ cause.headline ++ ")"
  | .engine e => e.message
  | .assertion e => e.message
  | .browser e => e.message
  | .file .nullByte => "embedded null byte"
  | .file (.file e) => e.message
  | .system message | .runtime message | .interrupt message => message
  | .cast (.conversion e) => e.message
  | .cast _ => ""
  | .json e => e.message
  | .calendar e => e.message
  | .codePoint n =>
    if n ≤ lastWrittenCode then "chr() arg not in range(0x110000)"
    else "Python int too large to convert to C int"
  | .notSuch => ""
  | .tooDeep => "maximum recursion depth exceeded"
  | .noName path => "PosixPath(" ++ quoted path.text ++ ") has an empty name"

/-- The text under which a failure is reported: its message, or its kind if there is none. -/
def report (e : Failure) : String := if e.message = "" then e.kind else e.message

/-- The kind of the failure that led to this one, if it was reported on its behalf. -/
def causeKind? : Failure → Option String
  | .load (.step _ (.payload _ (.record _))) => some "ValidationError"
  | .load (.step _ (.payload _ _)) => some "ValueError"
  | .locator _ cause => some cause.kind
  | .engine (.during _ cause) => some cause.kind
  | .engine (.asserting _ _ cause) => some cause.kind
  | .engine (.launch _ cause) => some cause.kind
  | .engine (.close _ cause) => some cause.kind
  | .engine (.directory _ cause) => some (fileKind (.file cause))
  | _ => none

end Failure

end FeatureRun.Run
