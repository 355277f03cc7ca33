import FeatureRun.Number.Binary64
import FeatureRun.Text.Blank
import FeatureRun.Text.Digit
import FeatureRun.Text.Quoted

/-!
Integers and reals read from text, and the text of an integer. Blanks may surround a number, digits
of every script are digits, and a single low line may stand between two digits. Decimal texts of
integers have at most 4300 digits in both directions; other bases have no limit.
-/
namespace FeatureRun.Number
open FeatureRun.Text
open scoped FeatureRun.CoreInstances

/-- Why a value has no number or no text. -/
inductive ConversionError where
  | badInteger (base : Nat) (shown : String)
  | badReal (shown : String)
  | tooManyDigits (found : Option Nat)
  | integerTooLarge
  | infiniteInteger
  | nanInteger
  /-- A value that lies too deep to be shown. -/
  | tooDeep
deriving DecidableEq, Repr

namespace ConversionError

/-- The failures of range, as opposed to those of form. -/
def isOverflow : ConversionError → Bool
  | .integerTooLarge | .infiniteInteger => true
  | _ => false

/-- The failures of form, as opposed to those of range and of depth. -/
def isMalformed : ConversionError → Bool
  | .tooDeep => false
  | e => !e.isOverflow

def message : ConversionError → String
  | .badInteger base shown =>
    "invalid literal for int() with base " ++ toString base ++ ": " ++
      String.ofList (shown.toList.take 200)
  | .badReal shown => "could not convert string to float: " ++ shown
  | .tooManyDigits found =>
    "Exceeds the limit (4300 digits) for integer string conversion" ++
      (match found with
        | some n => ": value has " ++ toString n ++ " digits"
        | none => "") ++
      "; use sys.set_int_max_str_digits() to increase the limit"
  | .integerTooLarge => "int too large to convert to float"
  | .infiniteInteger => "cannot convert float infinity to integer"
  | .nanInteger => "cannot convert float NaN to integer"
  | .tooDeep => "maximum recursion depth exceeded while getting the repr of an object"

end ConversionError

def digitLimit : Nat := 4300

/-- The decimal text of an integer within the limit. -/
def integerText (n : Int) : Except ConversionError String :=
  if n.natAbs < 10 ^ digitLimit then .ok (toString n) else .error (.tooManyDigits none)

/-- The number nearest to an integer, unless it is too large. -/
def realOfInt (n : Int) : Except ConversionError Binary64 :=
  match Binary64.ofInt n with
  | .infinite _ => .error .integerTooLarge
  | x => .ok x

/-- The integer part of a finite number. -/
def intOfReal (x : Binary64) : Except ConversionError Int :=
  match x with
  | .nan => .error .nanInteger
  | .infinite _ => .error .infiniteInteger
  | .finite _ _ _ _ => .ok (x.truncate?.getD 0)

/-- A decimal digit of any script as the digit of this one. -/
def plainDigit (c : Char) : Char :=
  match digitValue? c with
  | some d => digitChar d
  | none => c

/-- The sign of a numeral, `true` for minus, and what follows it. -/
def splitSign : List Char → Bool × List Char
  | '-' :: r => (true, r)
  | '+' :: r => (false, r)
  | s => (false, s)

/-- A run of digits: its value, their number, what follows, and whether every low line stands
behind a digit and before another. -/
structure DigitRun where
  value : Nat
  count : Nat
  rest : List Char
  wellPlaced : Bool

/-- Reads digits on from a value; `afterMark` says that no low line may come next. -/
def digitRun (base : Nat) (value count : Nat) (afterMark : Bool) : List Char → DigitRun
  | [] => ⟨value, count, [], !afterMark⟩
  | c :: r =>
    match (hexValue? c).filter (· < base) with
    | some d => digitRun base (value * base + d) (count + 1) false r
    | none =>
      if c = '_' && !afterMark then digitRun base value count true r
      else ⟨value, count, c :: r, !afterMark && c != '_'⟩

/-- The letter that marks a base behind a zero. -/
def baseLetter? : Nat → Option Char
  | 2 => some 'b'
  | 8 => some 'o'
  | 16 => some 'x'
  | _ => none

/-- Drops the mark of the base, such as `0x`; a low line may follow a mark. -/
def dropBaseMark (base : Nat) : List Char → Bool × List Char
  | '0' :: c :: r => if baseLetter? base = some c.toLower then (false, r) else (true, '0' :: c :: r)
  | s => (true, s)

/-- Reads an integer in base 2, 8, 10 or 16; `shown` is what an error quotes. -/
def readIntegerAs (base : Nat) (shown : String) (s : List Char) : Except ConversionError Int :=
  let bad := .error (.badInteger base shown)
  let (negative, body) := splitSign ((trimWith isNumberBlank s).map plainDigit)
  let (afterMark, digits) := dropBaseMark base body
  let run := digitRun base 0 0 afterMark digits
  if !run.wellPlaced || run.count = 0 then bad
  else if base = 10 && run.count > digitLimit then .error (.tooManyDigits (some run.count))
  else if run.rest.isEmpty then .ok (Binary64.signed negative run.value)
  else bad

def readInteger (base : Nat) (s : List Char) : Except ConversionError Int :=
  readIntegerAs base (String.ofList (quotedList s)) s

/-- Drops the low lines that stand between two digits; `none` if one stands elsewhere. -/
def dropMarks (afterDigit : Bool) : List Char → Option (List Char)
  | [] => some []
  | '_' :: r =>
    match r with
    | d :: _ => if afterDigit && d.isDigit then dropMarks false r else none
    | [] => none
  | c :: r => (dropMarks c.isDigit r).map (c :: ·)

/-- The digits at the front and the rest. -/
def spanDigits (s : List Char) : List Char × List Char := s.span Char.isDigit

/-- The value of ASCII digits. -/
def digitsValue (ds : List Char) : Nat := ds.foldl (fun n c => 10 * n + (c.toNat - 0x30)) 0

/-- The exponent part of a real: nothing, or a letter, a sign and digits. -/
def readExponent? : List Char → Option Int
  | [] => some 0
  | c :: r =>
    if c = 'e' || c = 'E' then
      let (negative, body) := splitSign r
      let (ds, rest) := spanDigits body
      if ds.isEmpty || !rest.isEmpty then none
      else some (Binary64.signed negative (digitsValue ds))
    else none

/-- A real without its sign: digits with at most one point, and an exponent. -/
def readUnsigned? (negative : Bool) (s : List Char) : Option Binary64 :=
  let (whole, rest) := spanDigits s
  let (fraction, rest) :=
    match rest with
    | '.' :: r => spanDigits r
    | r => ([], r)
  if whole.isEmpty && fraction.isEmpty then none
  else (readExponent? rest).map fun e =>
    Binary64.ofDecimal negative (digitsValue (whole ++ fraction)) (e - fraction.length)

/-- A real number, with infinity and no number by their names in any case. -/
def readReal? (s : List Char) : Option Binary64 := do
  let plain ← dropMarks false ((trimWith isNumberBlank s).map plainDigit)
  let (negative, body) := splitSign plain
  let name := String.ofList (body.map Char.toLower)
  if name = "inf" || name = "infinity" then some (.infinite negative)
  else if name = "nan" then some .nan
  else readUnsigned? negative body

/-- Reads a real number; `shown` is what an error quotes. -/
def readRealAs (shown : String) (s : List Char) : Except ConversionError Binary64 :=
  match readReal? s with
  | some x => .ok x
  | none => .error (.badReal shown)

def readReal (s : List Char) : Except ConversionError Binary64 :=
  readRealAs (String.ofList (quotedList s)) s

end FeatureRun.Number
