/-
**The node registry** (the lookup functions of `tinymac.c` and `tinymac_deregister_node`).

Each lookup is a scan of the table from slot 0 up. `tinymac_get_free_node` keeps a fallback while it
scans: a slot whose UUID is zero is returned at once, the first Unregistered slot otherwise.
-/

import TinyHan.Lib.Scan
import TinyHan.Mac.State

namespace TinyHan.Tinymac

open TinyHan.Lib

/-- The slots in the order every loop over the table visits them. -/
def slots : List Slot := List.finRange maxNodes

@[simp] theorem mem_slots (index : Slot) : index ∈ slots := List.mem_finRange index

/-- `tinymac_get_node_by_addr`. -/
def tinymacGetNodeByAddr (ctx : Ctx) (addr : BitVec 8) : Option NodePtr :=
  if ctx.params.coordinator then
    (slots.find? fun index =>
      (ctx.nodes index).addr == addr && (ctx.nodes index).state != .unregistered).map .slot
  else if ctx.coord.state ≠ .unregistered ∧ ctx.coord.addr = addr then some .coord
  else none

/-- `tinymac_get_node_by_uuid`. -/
def tinymacGetNodeByUuid (ctx : Ctx) (uuid : BitVec 64) : Option Slot :=
  slots.find? fun index => (ctx.nodes index).uuid == uuid

/-- `tinymac_get_free_node`: a slot with UUID zero ends the scan, the first Unregistered slot is the
fallback. -/
def tinymacGetFreeNode (ctx : Ctx) : Option Slot :=
  scanPrefer (fun index => (ctx.nodes index).uuid == 0#64)
    (fun index => (ctx.nodes index).state == .unregistered) slots none

/-- `tinymac_deregister_node`. -/
def tinymacDeregisterNode (σ : Mac) (ptr : NodePtr) : Mac :=
  let σ := σ.modify ptr fun node => node.setState .unregistered
  -- this node was our coordinator, so we are now unregistered
  let σ := if ptr = .coord then σ.update Ctx.detach else σ
  if σ.ctx.deregCb then σ.emit (.deregCb ptr) else σ

/-! ### What the lookups find -/

/-- **The free slot**: the first slot with UUID zero, whatever its state, and without one the first
Unregistered slot. -/
theorem tinymacGetFreeNode_eq (ctx : Ctx) :
    tinymacGetFreeNode ctx =
      (slots.find? fun index => (ctx.nodes index).uuid == 0#64).or
        (slots.find? fun index => (ctx.nodes index).state == .unregistered) := by
  rw [tinymacGetFreeNode, scanPrefer_eq, Option.none_or]

end TinyHan.Tinymac
