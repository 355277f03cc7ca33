/-!
Instances of the core library that come before those of other libraries where this namespace is
open: powers of natural numbers, the zero that sums start from, and the decision of what holds of
all members of a list, which goes along the list also where the type itself can be searched.
-/
namespace FeatureRun.CoreInstances

attribute [scoped instance (high)] instPowNat Zero.ofOfNat0 List.decidableBAll

end FeatureRun.CoreInstances
