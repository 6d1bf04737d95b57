import ButtonGateway.Daemon.Event
/-!
The daemon reports one press through all four button packets. A filter says which clicks count for
each of them.
-/
namespace ButtonGateway

open Daemon

/-- The clicks that are kept from each class of packet. -/
structure ClickFilter where
  upOrDown : List Click
  clickOrHold : List Click
  singleOrDoubleClick : List Click
  singleOrDoubleClickOrHold : List Click
  deriving DecidableEq, Repr

namespace ClickFilter

/-- Each press counts once: its edges, its hold, and how often it was clicked. -/
def standard : ClickFilter where
  upOrDown := [.down, .up]
  clickOrHold := [.hold]
  singleOrDoubleClick := [.singleClick, .doubleClick]
  singleOrDoubleClickOrHold := []

def kept (filter : ClickFilter) : ButtonClass → List Click
  | .upOrDown => filter.upOrDown
  | .clickOrHold => filter.clickOrHold
  | .singleOrDoubleClick => filter.singleOrDoubleClick
  | .singleOrDoubleClickOrHold => filter.singleOrDoubleClickOrHold

def forwards (filter : ClickFilter) (kind : ButtonClass) (made : Click) : Bool :=
  decide (made ∈ filter.kept kind)

end ClickFilter

end ButtonGateway
