import FeatureRun.Data.Display
import FeatureRun.Text.Replace
import FeatureRun.Spec.Step

/-!
Variables and their placeholders. Each variable in turn replaces its placeholder everywhere, so a
value may bring in placeholders of later variables.
-/
namespace FeatureRun.Spec
open FeatureRun.Text FeatureRun.Number FeatureRun.Data

/-- The placeholder of a name. -/
def placeholder (name : List Char) : List Char := '$' :: '{' :: name ++ ['}']

/-- Names with values, in the order in which they are written. -/
abbrev Bindings := List (String × String)

namespace Bindings

def names (bindings : Bindings) : List String := bindings.map Prod.fst

@[simp] theorem names_nil : names [] = [] := rfl

@[simp] theorem names_cons (b : String × String) (bindings : Bindings) :
    names (b :: bindings) = b.1 :: names bindings := rfl

@[simp] theorem names_append (front behind : Bindings) :
    names (front ++ behind) = names front ++ names behind := List.map_append

/-- Writes a value: a name that is present keeps its place, a new one goes to the end. -/
def set (name value : String) (bindings : Bindings) : Bindings :=
  writeEntry (· == ·) name value bindings

@[simp] theorem set_cons (name value other old : String) (bindings : Bindings) :
    set name value ((other, old) :: bindings) =
      if other = name then (other, value) :: bindings
      else (other, old) :: bindings.set name value := by
  simp only [set, writeEntry, beq_iff_eq]

theorem names_set (name value : String) (bindings : Bindings) :
    (bindings.set name value).names =
      if name ∈ bindings.names then bindings.names else bindings.names ++ [name] := by
  induction bindings with
  | nil => rfl
  | cons b bindings ih =>
    obtain ⟨other, old⟩ := b
    rw [set_cons]
    by_cases h : other = name
    · simp [h]
    · rw [if_neg h, names_cons, ih, names_cons]
      by_cases hmem : name ∈ names bindings
      · simp [hmem]
      · simp [hmem, Ne.symm h]

theorem nodup_set {bindings : Bindings} (h : bindings.names.Nodup) (name value : String) :
    (bindings.set name value).names.Nodup := by
  rw [names_set]
  split
  · exact h
  · have hnew : name ∉ bindings.names := ‹_›
    refine List.nodup_append.mpr ⟨h, by simp, ?_⟩
    rintro other hother _ hname rfl
    exact hnew (List.mem_singleton.mp hname ▸ hother)

/-- The text with the placeholders replaced, one binding after the other. -/
def substituteList (bindings : Bindings) (s : List Char) : List Char :=
  bindings.foldl (fun s b => replaceAll (placeholder b.1.toList) b.2.toList s) s

def substitute (bindings : Bindings) (s : String) : String :=
  String.ofList (bindings.substituteList s.toList)

/-- The names and values of a mapping as texts. Different keys may have the same text. -/
def ofEntries (entries : List (Value × Value)) : Except ConversionError Bindings :=
  entries.mapM fun e => do .ok (← e.1.display, ← e.2.display)

end Bindings

/-- Names with values, in the order in which the names were first written. -/
structure Variables where
  bindings : Bindings
  /-- No name is there twice. -/
  distinct : bindings.names.Nodup
deriving Repr

namespace Variables

def empty : Variables := ⟨[], List.nodup_nil⟩

def single (name value : String) : Variables := ⟨[(name, value)], by simp⟩

def map {α : Type} (vars : Variables) (f : String × String → α) : List α := vars.bindings.map f

def names (vars : Variables) : List String := vars.map Prod.fst

theorem names_bindings (vars : Variables) : vars.names = vars.bindings.names := rfl

def set (name value : String) (vars : Variables) : Variables where
  bindings := vars.bindings.set name value
  distinct := Bindings.nodup_set vars.distinct name value

/-- The bindings written one after the other. -/
def ofBindings (bindings : Bindings) : Variables :=
  bindings.foldl (fun vars b => vars.set b.1 b.2) empty

/-- The entries of a mapping as texts. -/
def ofEntries (entries : List (Value × Value)) : Except ConversionError Variables := do
  .ok (ofBindings (← Bindings.ofEntries entries))

/-- The text with the placeholders of the variables replaced, one variable after the other. -/
def substitute (vars : Variables) (s : String) : String := vars.bindings.substitute s

/-- Values other than texts have no placeholders. -/
def substituteValue (vars : Variables) : Value → Value
  | .text s => .text (vars.substitute (asString s))
  | v => v

/-- Replaces the placeholders of the entries of a mapping, each under the text of its key. -/
def substituteEntries (entries : List (Value × Value)) (v : Value) :
    Except ConversionError Value :=
  match v with
  | .text s => do .ok (.text ((← Bindings.ofEntries entries).substitute (asString s)))
  | v => .ok v

/-- The declared variables behind those of `start`, each value with the placeholders of those
before it replaced. -/
def resolve (start : Variables) (declared : Bindings) : Variables :=
  declared.foldl (fun done d => done.set d.1 (done.substitute d.2)) start

end Variables

/-- The instruction with the placeholders in its texts replaced. Numbers are as they were. -/
def Instruction.substitute (vars : Variables) : Instruction → Instruction
  | .text a s => .text a (vars.substitute s)
  | .await w s t => .await w (vars.substitute s) t
  | .fill s v => .fill (vars.substitute s) (vars.substitute v)
  | .fillField l v => .fillField (vars.substitute l) (vars.substitute v)
  | .select l o => .select (vars.substitute l) (vars.substitute o)
  | .clickText s => .clickText (vars.substitute s)
  | .clickSelector s => .clickSelector (vars.substitute s)
  | .wait x => .wait x

theorem Instruction.action_substitute (vars : Variables) (i : Instruction) :
    (i.substitute vars).action = i.action := by
  cases i <;> rfl

/-- The step with the placeholders in its texts replaced, also in the text of an unknown action. -/
def Step.substitute (vars : Variables) : Step → Step
  | .known i => .known (i.substitute vars)
  | .unknown action v => .unknown action (vars.substituteValue v)

end FeatureRun.Spec
