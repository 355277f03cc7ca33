/-!
Code points: characters, and the surrogates, which are no characters. An escape in a document can
ask for a surrogate that stands alone. It keeps its identity and its written form, and belongs to no
class of characters; where only characters can stand, the replacement character stands for it.
-/
namespace FeatureRun.Text

inductive CodePoint where
  | char (c : Char)
  /-- The surrogate at a place of their range. -/
  | surrogate (place : Fin 0x800)
deriving DecidableEq, Repr, Inhabited

namespace CodePoint

def firstSurrogate : Nat := 0xD800

def code : CodePoint → Nat
  | .char c => c.toNat
  | .surrogate place => firstSurrogate + place

/-- The code point of a number. -/
def ofCode? (n : Nat) : Option CodePoint :=
  if h : firstSurrogate ≤ n ∧ n - firstSurrogate < 0x800 then
    some (.surrogate ⟨n - firstSurrogate, h.2⟩)
  else if n ≤ 0x10FFFF then some (.char (Char.ofNat n))
  else none

def char? : CodePoint → Option Char
  | .char c => some c
  | .surrogate _ => none

/-- The character, and the replacement character for a surrogate. -/
def asChar : CodePoint → Char
  | .char c => c
  | .surrogate _ => '\uFFFD'

end CodePoint

/-- The code points of characters. -/
def codePoints (s : List Char) : List CodePoint := s.map .char

instance : Coe String (List CodePoint) := ⟨fun s => codePoints s.toList⟩

/-- The characters of a text, with replacement characters for surrogates. -/
def asCharacters (s : List CodePoint) : List Char := s.map (·.asChar)

def asString (s : List CodePoint) : String := String.ofList (asCharacters s)

/-- The characters of a text without surrogates. -/
def characters? (s : List CodePoint) : Option (List Char) := s.mapM (·.char?)

@[simp] theorem asCharacters_codePoints (s : List Char) : asCharacters (codePoints s) = s := by
  induction s with
  | nil => rfl
  | cons c s ih => simpa [asCharacters, codePoints, CodePoint.asChar] using ih

theorem characters?_codePoints (s : List Char) : characters? (codePoints s) = some s := by
  induction s with
  | nil => rfl
  | cons c s ih =>
    simp only [characters?, codePoints, List.map_cons, List.mapM_cons, CodePoint.char?] at ih ⊢
    simp [ih]

/-- Applies a change to every longest run of characters; `run` holds the current one, last first. -/
def changeRuns (change : List Char → List Char) (run : List Char) :
    List CodePoint → List CodePoint
  | [] => codePoints (change run.reverse)
  | .char c :: r => changeRuns change (c :: run) r
  | .surrogate place :: r =>
    codePoints (change run.reverse) ++ .surrogate place :: changeRuns change [] r

end FeatureRun.Text
