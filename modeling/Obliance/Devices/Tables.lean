import Mathlib.Data.List.Sort
import Obliance.Groups.Tables

/-!
# Devices and the groups above them

The columns of `devices` that scopes are resolved from, and the ancestors of a group as the services
read them from `device_group_closure`.
-/

namespace Obliance.Devices
open Obliance.Groups KeyedTable

structure DeviceRow where
  id : ℕ
  tenantId : ℕ
  groupId : Option ℕ
  deriving DecidableEq, Repr

def device (devices : List DeviceRow) (id : ℕ) : Option DeviceRow := get DeviceRow.id devices id

/-- `device?.group_id` in a condition: a missing device, NULL and 0 are no group. -/
def truthyGroup (devices : List DeviceRow) (id : ℕ) : Option ℕ :=
  ((device devices id).bind DeviceRow.groupId).filter (· ≠ 0)

/-- `WHERE descendant_id = ? ORDER BY depth DESC`: the root first, the group itself last. -/
def ancestorIds (closure : List ClosureRow) (groupId : ℕ) : List ℕ :=
  ((closure.filter fun r => r.descendantId = groupId).insertionSort fun r s => s.depth ≤ r.depth).map
    ClosureRow.ancestorId

end Obliance.Devices
