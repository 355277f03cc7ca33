/-!
Random tokens. The source of chance is a sequence of picks that is used over and over; a pick
selects from `n` things by its remainder.
-/
namespace FeatureRun.Run

/-- A sequence of picks and how many have been used. -/
structure Picks where
  sequence : List Int
  used : Nat
deriving DecidableEq, Repr

/-- The next selection from `n` things. -/
def Picks.next (p : Picks) (n : Nat) : Nat × Picks :=
  ((((p.sequence[p.used % p.sequence.length]?).getD 0).emod n).toNat, { p with used := p.used + 1 })

/-- Small letters and digits. -/
def tokenAlphabet : List Char := "abcdefghijklmnopqrstuvwxyz0123456789".toList

/-- A token of `n` characters. -/
def Picks.token (p : Picks) : Nat → List Char × Picks
  | 0 => ([], p)
  | n + 1 =>
    let (i, p) := p.next tokenAlphabet.length
    let (rest, p) := p.token n
    (tokenAlphabet[i]?.getD 'a' :: rest, p)

/-- The length of the token that every spec run gets. -/
def tokenLength : Nat := 6

end FeatureRun.Run
