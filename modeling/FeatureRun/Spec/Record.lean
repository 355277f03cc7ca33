import FeatureRun.Data.Display
import FeatureRun.Number.LooseInteger
import FeatureRun.Text.Utf8

/-!
Records with named fields, read from a mapping. Every issue is reported: first those of the declared
fields in their order, then the keys that are not declared in the order of the mapping. Only a key
that is a text with a surrogate is an issue of the record as a whole, and then its only one.
-/
namespace FeatureRun.Spec
open FeatureRun.Text FeatureRun.Number FeatureRun.Data
open scoped FeatureRun.CoreInstances

/-- What is wrong with a field or a key. -/
inductive FieldIssue where
  | missing
  | undeclared
  | keyNotText
  | notText
  | notCharacters
  | tooShort
  | notInteger
  | unreadable
  | fraction
  | notFinite
  | tooLarge
  | notPositive
deriving DecidableEq, Repr

def FieldIssue.message : FieldIssue → String
  | .missing => "Field required [type=missing]"
  | .undeclared => "Extra inputs are not permitted [type=extra_forbidden]"
  | .keyNotText => "Keys should be strings [type=invalid_key]"
  | .notText => "Input should be a valid string [type=string_type]"
  | .notCharacters =>
    "Input should be a valid string, unable to parse raw data as a unicode string " ++
      "[type=string_unicode]"
  | .tooShort => "String should have at least 1 character [type=string_too_short]"
  | .notInteger => "Input should be a valid integer [type=int_type]"
  | .unreadable =>
    "Input should be a valid integer, unable to parse string as an integer [type=int_parsing]"
  | .fraction =>
    "Input should be a valid integer, got a number with a fractional part [type=int_from_float]"
  | .notFinite => "Input should be a finite number [type=finite_number]"
  | .tooLarge =>
    "Unable to parse input string as an integer, exceeded maximum size [type=int_parsing_size]"
  | .notPositive => "Input should be greater than 0 [type=greater_than]"

/-- An issue with the key it is listed under; one of the record as a whole has no label. -/
structure Issue where
  label : Option String
  kind : FieldIssue
deriving DecidableEq, Repr

def Issue.message (i : Issue) : String :=
  (match i.label with
    | some label => "\n" ++ label
    | none => "") ++
    "\n  " ++ i.kind.message

/-- The issues of one record. -/
structure RecordError where
  record : String
  issues : List Issue
deriving DecidableEq, Repr

def RecordError.message (e : RecordError) : String :=
  toString e.issues.length ++ " validation error" ++ (if e.issues.length = 1 then "" else "s") ++
    " for " ++ e.record ++
    String.join (e.issues.map (·.message))

/-- The outcome of reading a field: its value, or what is wrong with it. -/
abbrev Field (α : Type) := Except FieldIssue α

/-- Reads a text: a text by its characters, a number as its text, bytes as UTF-8. -/
def readText (v : Value) : Except ConversionError (Field String) :=
  match v with
  | .text s => .ok (.ok (asString s))
  | .int n => (integerText n).map .ok
  | .real x => .ok (.ok x.text)
  | .bytes bs =>
    match decodeUtf8 bs with
    | .ok s => .ok (.ok (String.ofList s))
    | .error _ => .ok (.error .notCharacters)
  | _ => .ok (.error .notText)

/-- Refuses the empty text. -/
def atLeastOne (s : String) : Field String := if s = "" then .error .tooShort else .ok s

/-- Reads an integer from characters. -/
def integerOfText (s : List Char) : Field Int :=
  (readLooseInteger s).mapError fun
    | .malformed => .unreadable
    | .tooLong => .tooLarge

/-- Reads an integer: a truth value counts as one, a number must have no fraction. -/
def readInt (v : Value) : Field Int :=
  match v with
  | .int n => .ok n
  | .bool b => .ok (if b then 1 else 0)
  | .real x =>
    match x.truncate? with
    | none => .error .notFinite
    | some n =>
      if !x.isInteger then .error .fraction
      else if n.natAbs < 2 ^ (63 : Nat) then .ok n
      else .error .tooLarge
  | .text s =>
    match characters? s with
    | some cs => integerOfText cs
    | none => .error .notCharacters
  | .bytes bs =>
    match decodeUtf8 bs with
    | .ok s => integerOfText s
    | .error _ => .error .unreadable
  | _ => .error .notInteger

/-- A timeout: nothing, or a positive integer. -/
def readTimeout (v : Value) : Field (Option Int) :=
  match v with
  | .null => .ok none
  | v =>
    match readInt v with
    | .ok n => if 0 < n then .ok (some n) else .error .notPositive
    | .error e => .error e

/-- Reads a declared field that must be there. -/
def requiredField (entries : List (Value × Value)) (name : String)
    (read : Value → Except ConversionError (Field String)) :
    Except ConversionError (Field String) :=
  match Value.field? name entries with
  | some v => read v
  | none => .ok (.error .missing)

/-- The value is a text with a surrogate. -/
def holdsSurrogate : Value → Bool
  | .text s => (characters? s).isNone
  | _ => false

/-- Reads a text that must not be empty. Its characters are counted, so it has no surrogate. -/
def nonEmptyText (v : Value) : Except ConversionError (Field String) :=
  if holdsSurrogate v then .ok (.error .notCharacters)
  else (readText v).map fun f => f.bind atLeastOne

/-- The issue of a field, if it has one. -/
def issueOf {α : Type} (name : String) : Field α → List Issue
  | .ok _ => []
  | .error i => [⟨some name, i⟩]

/-- A key as it is shown inside a value; for one that has no text its kind stands. -/
def shownKey (key : Value) : String :=
  match key, key.shown with
  | _, .ok s => s
  | .tuple _, .error _ => "<unprintable tuple object>"
  | _, .error _ => "<unprintable int object>"

/-- The label under which the issues of a key are listed. One with a point stands in backticks, so
that it is not taken for a way into a part of the record. -/
def keyLabel (key : Value) : String :=
  let plain :=
    match key with
    | .text s => asString s
    | .bool b => if b then "1" else "0"
    | k => shownKey k
  if plain.toList.contains '.' then "`" ++ plain ++ "`" else plain

/-- The keys that are not declared, each with its issue. -/
def undeclaredIssues (declared : List String) (entries : List (Value × Value)) :
    List Issue :=
  entries.filterMap fun e =>
    match e.1 with
    | .text s =>
      if declared.contains (asString s) then none else some ⟨keyLabel e.1, .undeclared⟩
    | _ => some ⟨keyLabel e.1, .keyNotText⟩

/-- The issues of a record, given those of its declared fields. -/
def recordIssues (declared : List String) (entries : List (Value × Value)) (found : List Issue) :
    List Issue :=
  if entries.any fun e => holdsSurrogate e.1 then [⟨none, .notCharacters⟩]
  else found ++ undeclaredIssues declared entries

end FeatureRun.Spec
