import Restaurant.State
/-!
# Restaurant — the waiter (`semSharedMemWaiter.c`) and the chef

The waiter loops `2 * nGroups` times over `waitForClientOrChef`, then
`informChef` for a `FOODREQ` or `takeFoodToTable` for a `FOODREADY`.
`informChef` hands the order over through `foodOrder`/`foodGroup`,
signals the ordering group's table and the chef, and then waits for the
chef to acknowledge.

The chef is the other end of that hand-over and the author of every
`FOODREADY`. Its source is not in the repository; `chefStep` follows the
interface the spec gives it.
-/

namespace Restaurant

open State

/-- One atomic step of the waiter. -/
def waiterStep (nGroups : Nat) (s : State) : Option State :=
  match s.waiter with
  | .waitForClientOrChef =>
      if s.waiterReqs < nGroups * 2 then
        (s.down .mutex).map fun s =>
          { s with waiterStat := .WAIT_FOR_REQUEST, waiter := .waitForClientOrChefLeave }
      else none
  | .waitForClientOrChefLeave => some { s.up .mutex with waiter := .waitForClientOrChefWait }
  | .waitForClientOrChefWait =>
      (s.down .waiterRequest).map fun s => { s with waiter := .waitForClientOrChefRead }
  | .waitForClientOrChefRead =>
      (s.down .mutex).map fun s =>
        { s with waiter := .waitForClientOrChefReadLeave s.waiterRequest
                 ghost := { s.ghost with waiterReads := s.ghost.waiterReads ++ [s.waiterRequest] } }
  | .waitForClientOrChefReadLeave req =>
      some { s.up .mutex with waiter := .waitForClientOrChefRelease req }
  | .waitForClientOrChefRelease req =>
      let s := s.up .waiterRequestPossible
      match req.reqType with
      | .FOODREQ => some { s with waiter := .informChef req.reqGroup }
      | .FOODREADY => some { s with waiter := .takeFoodToTable req.reqGroup }
      | _ => some { s with waiter := .waitForClientOrChef, waiterReqs := s.waiterReqs + 1 }
  | .informChef g =>
      (s.down .mutex).map fun s =>
        { s with waiterStat := .INFORM_CHEF
                 foodOrder := 1
                 foodGroup := g
                 waiter := .informChefLeave g (s.assignedTable g)
                 ghost := { s.ghost with orderWrites := s.ghost.orderWrites ++ [g] } }
  | .informChefLeave g t => some { s.up .mutex with waiter := .informChefSignal g t }
  | .informChefSignal g t =>
      some { s.up (.requestReceived t) with
               waiter := .informChefOrder g
               ghost := { s.ghost with informed := s.ghost.informed ++ [g] } }
  | .informChefOrder g => some { s.up .waitOrder with waiter := .informChefWait g }
  | .informChefWait _ =>
      (s.down .orderReceived).map fun s =>
        { s with waiter := .waitForClientOrChef, waiterReqs := s.waiterReqs + 1 }
  | .takeFoodToTable g =>
      (s.down .mutex).map fun s =>
        { s with waiterStat := .TAKE_TO_TABLE
                 waiter := .takeFoodToTableSignal g (s.assignedTable g) }
  | .takeFoodToTableSignal g t =>
      some { s.up (.foodArrived t) with
               waiter := .takeFoodToTableLeave g
               ghost := { s.ghost with served := s.ghost.served ++ [g] } }
  | .takeFoodToTableLeave _ =>
      some { s.up .mutex with waiter := .waitForClientOrChef, waiterReqs := s.waiterReqs + 1 }

/-- Modelled from the spec: the chef's loop (its source file is not in
the repository). Once per group it waits on `waitOrder`, takes
`foodGroup` under `mutex` (clearing `foodOrder`), ups `orderReceived`,
cooks, and posts `{FOODREADY, group}` into the waiter's mailbox through
`waiterRequestPossible` and `waiterRequest`, as a group posts its
requests. -/
def chefStep (nGroups : Nat) (s : State) : Option State :=
  match s.chef with
  | .waitForOrder =>
      if s.chefOrders < nGroups then
        (s.down .waitOrder).map fun s => { s with chef := .waitForOrderRead }
      else none
  | .waitForOrderRead =>
      (s.down .mutex).map fun s =>
        { s with foodOrder := 0
                 chef := .waitForOrderLeave s.foodGroup
                 ghost := { s.ghost with orderReads := s.ghost.orderReads ++ [s.foodGroup] } }
  | .waitForOrderLeave g => some { s.up .mutex with chef := .waitForOrderAck g }
  | .waitForOrderAck g => some { s.up .orderReceived with chef := .processOrder g }
  | .processOrder g =>
      (s.down .waiterRequestPossible).map fun s => { s with chef := .processOrderMutex g }
  | .processOrderMutex g =>
      (s.down .mutex).map fun s => { s.postWaiter ⟨.FOODREADY, g⟩ with chef := .processOrderPost g }
  | .processOrderPost _ => some { s.up .waiterRequest with chef := .processOrderLeave }
  | .processOrderLeave =>
      some { s.up .mutex with chef := .waitForOrder, chefOrders := s.chefOrders + 1 }

end Restaurant
