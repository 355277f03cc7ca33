import FeatureRun.Number.Reading

/-!
Integers as texts, plain or loose. A plain integer has only its digits and perhaps a minus sign. A
loose one may have blanks around it, a plus sign, zeros in front, a point with zeros behind it and
low lines; it is brought into plain form and read as such.
-/
namespace FeatureRun.Number
open FeatureRun.Text

/-- Why a text is no integer. -/
inductive IntegerFault where
  | malformed
  | tooLong
deriving DecidableEq, Repr

/-- The first digit is not zero, or there is no other. -/
def startsPlainly : List Char → Bool
  | [] => false
  | d :: ds => d != '0' || ds.isEmpty

/-- Reads a plain integer. That it has too many digits counts before what follows them. -/
def readPlainInteger (s : List Char) : Except IntegerFault Int :=
  let (negative, body) :=
    match s with
    | '-' :: r => (true, r)
    | r => (false, r)
  let (digits, rest) := spanDigits body
  if !startsPlainly digits then .error .malformed
  else if digitLimit < digits.length then .error .tooLong
  else if rest.isEmpty then .ok (Binary64.signed negative (digitsValue digits))
  else .error .malformed

/-- What remains of a text behind a zero: zeros and low lines are passed over up to another digit or
a minus sign. A point keeps the character before it, and so does the end of the text. -/
def behindZero? (last : Char) : List Char → Option (List Char)
  | [] => some [last]
  | c :: r =>
    if c = '0' || c = '_' then behindZero? c r
    else if c = '.' then some (last :: c :: r)
    else if c.isDigit || c = '-' then some (c :: r)
    else none

/-- Drops the zeros in front of an integer. -/
def dropZeros? : List Char → Option (List Char)
  | [] => none
  | c :: r =>
    if c = '0' then behindZero? c r
    else if c.isDigit || c = '-' then some (c :: r)
    else none

/-- The digits of an integer without a point or with zeros only behind it. -/
def beforeZeros? (s : List Char) : Option (List Char) :=
  match s.span (· != '.') with
  | (whole, []) => some whole
  | (whole, _ :: zeros) => if !zeros.isEmpty && zeros.all (· == '0') then some whole else none

/-- The text without low lines, unless one stands at an end or next to another; `apart` says that
none may come next. -/
def dropSingleMarks? (apart : Bool) : List Char → Option (List Char)
  | [] => if apart then none else some []
  | c :: r =>
    if c = '_' then if apart then none else dropSingleMarks? true r
    else (dropSingleMarks? false r).map (c :: ·)

/-- The plain form of a loose integer without its sign. -/
def plainUnsigned? (s : List Char) : Option (List Char) := do
  dropSingleMarks? true (← beforeZeros? (← dropZeros? s))

/-- The plain form of a loose integer. What it yields need not be an integer. -/
def plainForm? (s : List Char) : Option (List Char) :=
  match trimWith isNumberBlank s with
  | '-' :: r => (plainUnsigned? r).map ('-' :: ·)
  | '+' :: '-' :: _ => none
  | '+' :: r => plainUnsigned? r
  | r => plainUnsigned? r

/-- Reads an integer, plain or loose. Only a plain one is refused for its length. -/
def readLooseInteger (s : List Char) : Except IntegerFault Int :=
  match readPlainInteger s, plainForm? s with
  | .error .malformed, some t => (readPlainInteger t).mapError fun _ => .malformed
  | r, _ => r

end FeatureRun.Number
