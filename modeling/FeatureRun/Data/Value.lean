import FeatureRun.Data.Calendar
import FeatureRun.Number.Reading
import FeatureRun.Number.Shortest

/-!
Decoded values. A container may hold itself: `shared` names a container on a cycle, and `inside`
stands for an enclosing container of that name. Occurrences of one name are one container. A value
that is read from outside is `exposed` first.
-/
namespace FeatureRun.Data
open FeatureRun.Text FeatureRun.Number

inductive Value where
  | null
  | bool (b : Bool)
  | int (n : Int)
  | real (x : Binary64)
  | text (s : List CodePoint)
  | bytes (bs : List UInt8)
  | date (d : Date)
  | moment (m : Moment)
  | list (items : List Value)
  | tuple (items : List Value)
  | set (items : List Value)
  /-- Entries in the order in which their keys were first written. -/
  | map (entries : List (Value × Value))
  /-- The container `body`, which refers to itself by `label` or to a container around it. -/
  | shared (label : Nat) (body : Value)
  /-- The enclosing container of this label. -/
  | inside (label : Nat)
deriving Inhabited, Repr

/-- How deep a value can be gone into: 1000 nested calls, less those that are under way. -/
def depthLimit : Nat := 980

/-- Writes an entry: a key that is present keeps its place and its form, a new one goes to the end.
-/
def writeEntry {κ α : Type} (same : κ → κ → Bool) (key : κ) (x : α) : List (κ × α) → List (κ × α)
  | [] => [(key, x)]
  | (k, y) :: es => if same k key then (k, x) :: es else (k, y) :: writeEntry same key x es

/-- The entries written one after the other. -/
def writeEntries {κ α : Type} (same : κ → κ → Bool) (es : List (κ × α)) : List (κ × α) :=
  es.foldl (fun done e => writeEntry same e.1 e.2 done) []

namespace Value

mutual
/-- Puts `whole` in the place of every reference to `label`. -/
def put (label : Nat) (whole : Value) : Value → Value
  | .list xs => .list (putAll label whole xs)
  | .tuple xs => .tuple (putAll label whole xs)
  | .set xs => .set (putAll label whole xs)
  | .map es => .map (putEntries label whole es)
  | .shared l body => if l = label then .shared l body else .shared l (put label whole body)
  | .inside l => if l = label then whole else .inside l
  | v => v

def putAll (label : Nat) (whole : Value) : List Value → List Value
  | [] => []
  | x :: xs => put label whole x :: putAll label whole xs

def putEntries (label : Nat) (whole : Value) : List (Value × Value) → List (Value × Value)
  | [] => []
  | (k, v) :: es => (put label whole k, put label whole v) :: putEntries label whole es
end

mutual
/-- The value refers to a container around it, other than those of the labels `within`. -/
def refersOut (within : List Nat) : Value → Bool
  | .list xs | .tuple xs | .set xs => anyRefersOut within xs
  | .map es => anyEntryRefersOut within es
  | .shared l body => refersOut (l :: within) body
  | .inside l => !within.contains l
  | _ => false

def anyRefersOut (within : List Nat) : List Value → Bool
  | [] => false
  | x :: xs => refersOut within x || anyRefersOut within xs

def anyEntryRefersOut (within : List Nat) : List (Value × Value) → Bool
  | [] => false
  | (k, v) :: es => refersOut within k || refersOut within v || anyEntryRefersOut within es
end

/-- The value with a container's own name opened, so that its form can be read off. -/
def exposed : Value → Value
  | .shared l body => put l (.shared l body) body
  | v => v

/-- The entries of a mapping. -/
def entries? (v : Value) : Option (List (Value × Value)) :=
  match v.exposed with
  | .map es => some es
  | _ => none

/-- The items of a list. -/
def items? (v : Value) : Option (List Value) :=
  match v.exposed with
  | .list xs => some xs
  | _ => none

/-- Numbers equal by value, whatever their kind; a truth value counts as a number. -/
def number? : Value → Option (Int ⊕ Binary64)
  | .bool b => some (.inl (if b then 1 else 0))
  | .int n => some (.inl n)
  | .real x => some (.inr x)
  | _ => none

def sameNumber : Int ⊕ Binary64 → Int ⊕ Binary64 → Bool
  | .inl a, .inl b => a == b
  | .inl a, .inr y => y.equalsInt a
  | .inr x, .inl b => x.equalsInt b
  | .inr x, .inr y => x.same y

mutual
/-- Two keys of a mapping are the same key. Containers other than tuples are no keys. -/
def sameKey : Value → Value → Bool
  | .null, .null => true
  | .text s, .text t => s == t
  | .bytes s, .bytes t => s == t
  | .date a, .date b => a == b
  | .moment a, .moment b => a.same b
  | .tuple xs, .tuple ys => sameKeys xs ys
  | a, b =>
    match a.number?, b.number? with
    | some x, some y => sameNumber x y
    | _, _ => false

def sameKeys : List Value → List Value → Bool
  | [], [] => true
  | x :: xs, y :: ys => sameKey x y && sameKeys xs ys
  | _, _ => false
end

/-- What may be a key of a mapping. -/
def isKey : Value → Bool
  | .list _ | .set _ | .map _ | .shared _ _ | .inside _ => false
  | _ => true

/-- The entries of a mapping with repeated keys written one after the other. -/
def ofEntries (es : List (Value × Value)) : List (Value × Value) := writeEntries sameKey es

/-- The value at a key. -/
def lookup? (key : Value) (es : List (Value × Value)) : Option Value :=
  (es.find? fun e => sameKey e.1 key).map (·.2)

/-- The value at a key that is a text. -/
def field? (name : String) (es : List (Value × Value)) : Option Value := lookup? (.text name) es

/-- Whether the value counts as true: not so are nothing, false, zero and what is empty. -/
def isTruthy (v : Value) : Bool :=
  match v.exposed with
  | .null => false
  | .bool b => b
  | .int n => n != 0
  | .real x => !x.isZero
  | .text s => !s.isEmpty
  | .bytes bs => !bs.isEmpty
  | .list xs | .tuple xs | .set xs => !xs.isEmpty
  | .map es => !es.isEmpty
  | _ => true

end Value

end FeatureRun.Data
