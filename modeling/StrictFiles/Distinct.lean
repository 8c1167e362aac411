/-!
Lists read as sets that remember the order of their members.
-/

namespace StrictFiles

/-- The members without repetitions, each at its first place. -/
def distinct {α : Type} [DecidableEq α] (items : List α) : List α :=
  items.foldl (fun seen item => if item ∈ seen then seen else seen ++ [item]) []

end StrictFiles
