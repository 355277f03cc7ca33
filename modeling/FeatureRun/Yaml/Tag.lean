import FeatureRun.Yaml.Stamp

/-!
Kinds of nodes. A text without quotes gets its kind from its form; any node may be given a kind by
an address.
-/
namespace FeatureRun.Yaml
open FeatureRun.Text FeatureRun.Number

inductive Tag where
  | null
  | bool
  | int
  | real
  | binary
  | time
  | text
  | list
  | map
  | set
  /-- A list of pairs, written as mappings of one entry. -/
  | pairs
  /-- The key whose values are merged into a mapping. -/
  | merge
  /-- The key whose value stands for the mapping. -/
  | standIn
  | unknown
deriving DecidableEq, Repr

/-- The common part of the addresses that have a meaning. -/
def tagRoot : List Char := "tag:yaml.org,2002:".toList

/-- The names of the kinds, behind the common part. -/
def tagNames : List (String × Tag) := [
  ("null", .null), ("bool", .bool), ("int", .int), ("float", .real), ("binary", .binary),
  ("timestamp", .time), ("str", .text), ("seq", .list), ("map", .map), ("set", .set),
  ("omap", .pairs), ("pairs", .pairs), ("merge", .merge), ("value", .standIn)]

/-- The kind of an address. -/
def Tag.ofAddress (address : List Char) : Tag :=
  if tagRoot.isPrefixOf address then
    (tagNames.lookup (String.ofList (address.drop tagRoot.length))).getD .unknown
  else .unknown

def isDigitOrMark (c : Char) : Bool := c.isDigit || c == '_'

/-- Digits with low lines among them, behind a first digit. -/
def isDigitRun : List Char → Bool
  | [] => false
  | c :: r => c.isDigit && r.all isDigitOrMark

/-- A part of a number in base 60 behind the first: at most 59, in one or two digits. -/
def isSixtieth : List Char → Bool
  | [a] => a.isDigit
  | [a, b] => '0' ≤ a && a ≤ '5' && b.isDigit
  | _ => false

/-- The parts of a number in base 60: there are at least two, and the first passes the test. -/
def isSexagesimal (first : List Char → Bool) (parts : List (List Char)) : Bool :=
  match parts with
  | a :: b :: more => first a && (b :: more).all isSixtieth
  | _ => false

/-- A digit that is not zero, and more digits with low lines among them. -/
def isCounting (s : List Char) : Bool := isDigitRun s && s.head? != some '0'

/-- The form of an integer: in base 2, 8, 10, 16 or 60. -/
def isIntegerForm (s : List Char) : Bool :=
  let body := (splitSign s).2
  match body with
  | ['0'] => true
  | '0' :: 'b' :: r => !r.isEmpty && r.all fun c => c == '0' || c == '1' || c == '_'
  | '0' :: 'x' :: r => !r.isEmpty && r.all fun c => (hexValue? c).isSome || c == '_'
  | '0' :: r => r.all fun c => ('0' ≤ c && c ≤ '7') || c == '_'
  | _ => isCounting body || isSexagesimal isCounting (split ':' body)

/-- An exponent, which has a sign, or nothing. -/
def isExponentOrNone : List Char → Bool
  | [] => true
  | e :: sign :: r =>
    (e == 'e' || e == 'E') && (sign == '+' || sign == '-') && !r.isEmpty && r.all Char.isDigit
  | _ => false

/-- Digits with low lines among them, and perhaps an exponent. -/
def isFraction (s : List Char) : Bool := isExponentOrNone (s.dropWhile isDigitOrMark)

/-- The form of a real: with a point, in base 10 or 60, infinity, or no number. -/
def isRealForm (s : List Char) : Bool :=
  let body := (splitSign s).2
  let (whole, rest) := body.span (· != '.')
  match rest with
  | [] => false
  | _ :: fraction =>
    if whole.isEmpty then
      ["inf", "Inf", "INF"].contains (String.ofList fraction) ||
        (s.head? == some '.' &&
          (["nan", "NaN", "NAN"].contains (String.ofList fraction) ||
            (fraction.head?.any Char.isDigit && isFraction fraction)))
    else
      (isDigitRun whole && isFraction fraction) ||
        (isSexagesimal isDigitRun (split ':' whole) && fraction.all isDigitOrMark)

def trueWords : List String := ["yes", "Yes", "YES", "true", "True", "TRUE", "on", "On", "ON"]

def falseWords : List String := ["no", "No", "NO", "false", "False", "FALSE", "off", "Off", "OFF"]

/-- The form of nothing. -/
def isNullForm (s : List Char) : Bool :=
  ["~", "null", "Null", "NULL", ""].contains (String.ofList s)

/-- A text without the line feed at its end. -/
def dropLastBreak (s : List Char) : List Char :=
  if s.getLast? = some '\n' && s.length != 1 then s.dropLast else s

/-- The kind of a text by its form. -/
def Tag.ofForm (s : List Char) : Tag :=
  let s := dropLastBreak s
  let word := String.ofList s
  if trueWords.contains word || falseWords.contains word then .bool
  else if isRealForm s then .real
  else if isIntegerForm s then .int
  else if isTimeForm s then .time
  else if isNullForm s then .null
  else if word = "<<" then .merge
  else if word = "=" then .standIn
  else if ["!", "&", "*"].contains word then .unknown
  else .text

end FeatureRun.Yaml
