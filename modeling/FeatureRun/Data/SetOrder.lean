import FeatureRun.Data.Value

/-!
The order in which a set of numbers lists its members. The members lie in a table, each in the slot
of its residue or, if that is taken, in a free slot found from there; the slots are listed in turn.
So small natural numbers are listed in their order. Other sets list their members as they came.
-/
namespace FeatureRun.Data
open FeatureRun.Number
open scoped FeatureRun.CoreInstances

/-- Residues are taken modulo a prime, for which `2 ^ 61` counts as one. -/
def residuePrime : Nat := 2 ^ (61 : Nat) - 1

/-- The residue of a number with its sign. Numbers that are equal have the same; the residue -1 is
written -2. -/
def residue? (v : Value) : Option Int :=
  let signed (n : Int) : Option Int := some (if n = -1 then -2 else n)
  match v.number? with
  | some (.inl n) => signed (n.tmod residuePrime)
  | some (.inr (.finite negative m e _)) =>
    signed (Binary64.signed negative (m * 2 ^ (e.emod 61).toNat % residuePrime))
  | some (.inr (.infinite negative)) => some (if negative then -314159 else 314159)
  | _ => none

/-- The number of slots for so many members. -/
def slotCount (members : Nat) : Nat := if members < 5 then 8 else 2 ^ ((2 * members).log2 + 1)

/-- The first slot that is not taken. From slot `i` the next nine are tried too, if the table has
them; `rest` decides where to go on. -/
def freeSlot (taken : List Nat) (slots : Nat) : Nat → Nat → Nat → Nat
  | 0, i, _ => i
  | n + 1, i, rest =>
    let run := if i + 9 < slots then 10 else 1
    match ((List.range run).map (i + ·)).find? (!taken.contains ·) with
    | some slot => slot
    | none => freeSlot taken slots n ((5 * i + 1 + rest / 32) % slots) (rest / 32)

/-- Puts a number into the table, with its slot. After thirteen steps nothing of the residue is
left, and then every slot is met in as many steps as there are slots. -/
def putMember (slots : Nat) (table : List (Nat × Value)) (v : Value) : List (Nat × Value) :=
  let residue := (residue? v).getD 0
  let start := (residue.emod slots).toNat
  (freeSlot (table.map (·.1)) slots (slots + 14) start (residue.emod (2 ^ (64 : Nat))).toNat, v) ::
    table

/-- The members of a set in the order in which it lists them. -/
def setOrder (members : List Value) : List Value :=
  if members.all fun v => (residue? v).isSome then
    let table := members.foldl (putMember (slotCount members.length)) []
    (table.mergeSort fun a b => a.1 ≤ b.1).map (·.2)
  else members

theorem map_foldl_putMember (slots : Nat) (members : List Value) (table : List (Nat × Value)) :
    (members.foldl (putMember slots) table).map (·.2) = members.reverse ++ table.map (·.2) := by
  induction members generalizing table with
  | nil => rfl
  | cons v members ih => simp [ih, putMember]

/-- A set lists every member once. -/
theorem setOrder_perm (members : List Value) : (setOrder members).Perm members := by
  unfold setOrder
  split
  · refine ((List.mergeSort_perm _ _).map _).trans ?_
    rw [map_foldl_putMember]
    simp
  · exact .refl _

end FeatureRun.Data
