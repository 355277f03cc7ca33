/-!
Splitting of a list, such as a text, at an item.
-/
namespace FeatureRun.Text

/-- The pieces between the occurrences of `sep`; there is one more piece than occurrences. -/
def split {α : Type} [DecidableEq α] (sep : α) : List α → List (List α)
  | [] => [[]]
  | c :: r =>
    if c = sep then [] :: split sep r
    else
      match split sep r with
      | [] => [[c]]
      | piece :: pieces => (c :: piece) :: pieces

end FeatureRun.Text
