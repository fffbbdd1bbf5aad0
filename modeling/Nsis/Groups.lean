import Nsis.Datum.Items

/-!
# Groups of groups

The items of several groups can be put into one list.

## Main definitions

* `Nsis.Datum.flatten` — all items of a group of groups.
-/

namespace Nsis.Datum

/-- The items of all groups in order. Groups inside a group are left as they are. -/
def joined : List Datum → Except Fault (List Datum)
  | [] => .ok []
  | g :: gs => do
    let xs ← g.members
    let ys ← joined gs
    .ok (xs ++ ys)

/-- The items of all groups of a group. -/
def flatten (d : Datum) : Except Fault (List Datum) := do
  joined (← d.members)

end Nsis.Datum
