import FeatureRun.Spec.Spec

/-!
Results of scenarios and specs, and the summary over all specs of a run. Only active specs and files
that could not be loaded decide the exit code.
-/
namespace FeatureRun.Run
open FeatureRun.Spec

/-- The outcome of one scenario. -/
structure Outcome where
  name : String
  passed : Bool
  error : Option String := none
  screenshot : Option String := none
deriving DecidableEq, Repr

structure SpecResult where
  feature : String
  status : Status
  passed : Int
  failed : Int
  outcomes : List Outcome
deriving DecidableEq, Repr

/-- Counts the outcomes of a spec. -/
def SpecResult.ofOutcomes (feature : String) (status : Status) (outcomes : List Outcome) :
    SpecResult where
  feature := feature
  status := status
  passed := outcomes.countP (·.passed)
  failed := outcomes.length - outcomes.countP (·.passed)
  outcomes := outcomes

structure Tally where
  passed : Int := 0
  failed : Int := 0
deriving DecidableEq, Repr

def Tally.plus (t : Tally) (passed failed : Int) : Tally := ⟨t.passed + passed, t.failed + failed⟩

/-- Counts per status, and the files that could not be loaded. -/
structure Summary where
  active : Tally := {}
  draft : Tally := {}
  loadErrors : Int := 0
deriving DecidableEq, Repr

namespace Summary

/-- Adds the counts of a result under its status. -/
def add (s : Summary) (r : SpecResult) : Summary :=
  match r.status with
  | .active => { s with active := s.active.plus r.passed r.failed }
  | .draft => { s with draft := s.draft.plus r.passed r.failed }

/-- Counts a file that could not be loaded, also as a draft failure: its status is not known. -/
def addLoadFailure (s : Summary) : Summary :=
  { s with draft := s.draft.plus 0 1, loadErrors := s.loadErrors + 1 }

def exitCode (s : Summary) : Nat :=
  if 0 < s.active.failed then 1
  else if 0 < s.loadErrors then 1
  else 0

end Summary

end FeatureRun.Run
