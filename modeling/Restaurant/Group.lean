import Restaurant.State
/-!
# Restaurant — the group (`semSharedMemGroup.c`)

A group's life is `checkInAtReception`, `orderFood`, `waitFood`, `eat`
and `checkOutAtReception`, run once. `groupStep` is one atomic step of
it: the semaphore operation at the group's point and the code after it
up to the next operation. The code in between touches shared memory
only under `mutex`, or its own locals, so nothing is lost by running it
in the same step. `goToRestaurant` and `eat` are delays and have no
step of their own.
-/

namespace Restaurant

open State

/-- One atomic step of group `g`, or `none` when it is blocked or has
returned. -/
def groupStep (s : State) (g : Nat) : Option State :=
  match s.group g with
  -- checkInAtReception
  | .goToRestaurant =>
      (s.down .receptionistRequestPossible).map (·.setGroup g .checkInMutex)
  | .checkInMutex =>
      (s.down .mutex).map fun s =>
        ((s.setStat g .ATRECEPTION).postReceptionist ⟨.TABLEREQ, g⟩).setGroup g .checkInPost
  | .checkInPost => some ((s.up .receptionistReq).setGroup g .checkInLeave)
  | .checkInLeave => some ((s.up .mutex).setGroup g .checkInWaitTable)
  | .checkInWaitTable => (s.down (.waitForTable g)).map (·.setGroup g .orderFoodPossible)
  -- orderFood
  | .orderFoodPossible => (s.down .waiterRequestPossible).map (·.setGroup g .orderFoodMutex)
  | .orderFoodMutex =>
      (s.down .mutex).map fun s => (s.postWaiter ⟨.FOODREQ, g⟩).setGroup g .orderFoodPost
  | .orderFoodPost =>
      some (((s.up .waiterRequest).setStat g .FOOD_REQUEST).setGroup g
        (.orderFoodLeave (s.assignedTable g)))
  | .orderFoodLeave t => some ((s.up .mutex).setGroup g (.orderFoodWait t))
  | .orderFoodWait t => (s.down (.requestReceived t)).map (·.setGroup g .waitFoodMutex)
  -- waitFood
  | .waitFoodMutex =>
      (s.down .mutex).map fun s =>
        (s.setStat g .WAIT_FOR_FOOD).setGroup g (.waitFoodLeave (s.assignedTable g))
  | .waitFoodLeave t => some ((s.up .mutex).setGroup g (.waitFoodWait t))
  | .waitFoodWait t => (s.down (.foodArrived t)).map (·.setGroup g .waitFoodEat)
  | .waitFoodEat => (s.down .mutex).map fun s => (s.setStat g .EAT).setGroup g .waitFoodEatLeave
  | .waitFoodEatLeave => some ((s.up .mutex).setGroup g .checkOutPossible)
  -- checkOutAtReception
  | .checkOutPossible =>
      (s.down .receptionistRequestPossible).map (·.setGroup g .checkOutMutex)
  | .checkOutMutex =>
      (s.down .mutex).map fun s =>
        ((s.setStat g .CHECKOUT).postReceptionist ⟨.BILLREQ, g⟩).setGroup g
          (.checkOutPost (s.assignedTable g))
  | .checkOutPost t => some ((s.up .receptionistReq).setGroup g (.checkOutLeave t))
  | .checkOutLeave t => some ((s.up .mutex).setGroup g (.checkOutWait t))
  | .checkOutWait t => (s.down (.tableDone t)).map (·.setGroup g (.checkOutLeaving t))
  | .checkOutLeaving t =>
      (s.down .mutex).map fun s => (s.setStat g .LEAVING).setGroup g (.checkOutLeavingLeave t)
  | .checkOutLeavingLeave t => some ((s.up .mutex).setGroup g (.exited t))
  | .exited _ => none

end Restaurant
