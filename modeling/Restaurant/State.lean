import Mathlib.Logic.Function.Basic
/-!
# Restaurant — the shared state and the processes' program points

The record every process maps from the shared region (`sh->fSt`), the
semaphore set, and the private variables of each process: where it is
in its code, the locals live there, and the receptionist's
`groupRecord`. A program point names the semaphore operation the
process performs next (`semSharedMemGroup.c`,
`semSharedMemReceptionist.c`, `semSharedMemWaiter.c`); the chef, whose
source is not part of the repository, follows the spec's interface.

`Ghost` is history the code does not keep: what was written to and
read from each single-slot mailbox, and which groups the waiter has
signalled. No step reads it.
-/

namespace Restaurant

/-- `reqType` of a `request`. -/
inductive ReqType where
  | TABLEREQ
  | BILLREQ
  | FOODREQ
  | FOODREADY
  deriving DecidableEq, Repr

/-- A mailbox value: what is asked, and by (or for) which group. -/
structure Request where
  reqType : ReqType
  reqGroup : Nat
  deriving DecidableEq, Repr

/-- `groupStat`: the phase a group last saved. `GOING` is the
initializer's value, before check-in. -/
inductive GroupStat where
  | GOING
  | ATRECEPTION
  | FOOD_REQUEST
  | WAIT_FOR_FOOD
  | EAT
  | CHECKOUT
  | LEAVING
  deriving DecidableEq, Repr

/-- `receptionistStat`. -/
inductive ReceptionistStat where
  | WAIT_FOR_REQUEST
  | ASSIGNTABLE
  | RECVPAY
  deriving DecidableEq, Repr

/-- `waiterStat`. -/
inductive WaiterStat where
  | WAIT_FOR_REQUEST
  | INFORM_CHEF
  | TAKE_TO_TABLE
  deriving DecidableEq, Repr

/-- The receptionist's private view of a group (`TOARRIVE` … `DONE`,
the macros `0` … `3`). -/
inductive GroupRecord where
  | TOARRIVE
  | WAIT
  | ATTABLE
  | DONE
  deriving DecidableEq, Repr

/-- The integer each record constant is defined as. -/
def GroupRecord.code : GroupRecord → Nat
  | .TOARRIVE => 0
  | .WAIT => 1
  | .ATTABLE => 2
  | .DONE => 3

/-- The semaphore set. The per-table ones are indexed by whatever
integer the code computes, so an index outside `[0, NUMTABLES)` names a
semaphore of its own rather than being clamped. -/
inductive Sem where
  | mutex
  | receptionistReq
  | receptionistRequestPossible
  | waiterRequest
  | waiterRequestPossible
  | waitForTable (group : Nat)
  | requestReceived (table : Int)
  | foodArrived (table : Int)
  | tableDone (table : Int)
  | waitOrder
  | orderReceived
  deriving DecidableEq, Repr

/-- Where a group is: the operation it performs next, with the local
`table_id` where the code has one. Travelling and eating touch no
shared state and have no point of their own. -/
inductive GroupPc where
  /-- `checkInAtReception`: down `receptionistRequestPossible`. -/
  | goToRestaurant
  /-- Down `mutex`; save `ATRECEPTION` and post `TABLEREQ`. -/
  | checkInMutex
  /-- Up `receptionistReq`. -/
  | checkInPost
  /-- Up `mutex`. -/
  | checkInLeave
  /-- Down `waitForTable[group]`. -/
  | checkInWaitTable
  /-- `orderFood`: down `waiterRequestPossible`. -/
  | orderFoodPossible
  /-- Down `mutex`; post `FOODREQ`. -/
  | orderFoodMutex
  /-- Up `waiterRequest`; save `FOOD_REQUEST`, read `assignedTable`. -/
  | orderFoodPost
  /-- Up `mutex`. -/
  | orderFoodLeave (table : Int)
  /-- Down `requestReceived[table]`. -/
  | orderFoodWait (table : Int)
  /-- `waitFood`: down `mutex`; save `WAIT_FOR_FOOD`, read `assignedTable`. -/
  | waitFoodMutex
  /-- Up `mutex`. -/
  | waitFoodLeave (table : Int)
  /-- Down `foodArrived[table]`. -/
  | waitFoodWait (table : Int)
  /-- Down `mutex`; save `EAT`. -/
  | waitFoodEat
  /-- Up `mutex`. -/
  | waitFoodEatLeave
  /-- `checkOutAtReception`: down `receptionistRequestPossible`. -/
  | checkOutPossible
  /-- Down `mutex`; save `CHECKOUT`, read `assignedTable`, post `BILLREQ`. -/
  | checkOutMutex
  /-- Up `receptionistReq`. -/
  | checkOutPost (table : Int)
  /-- Up `mutex`. -/
  | checkOutLeave (table : Int)
  /-- Down `tableDone[table]`. -/
  | checkOutWait (table : Int)
  /-- Down `mutex`; save `LEAVING`. -/
  | checkOutLeaving (table : Int)
  /-- Up `mutex`. -/
  | checkOutLeavingLeave (table : Int)
  /-- Returned from `checkOutAtReception`; `table` is the one it paid for. -/
  | exited (table : Int)
  deriving DecidableEq, Repr

/-- Where the receptionist is in its loop. -/
inductive ReceptionistPc where
  /-- Loop head; `waitForGroup`: down `mutex`, save `WAIT_FOR_REQUEST`. -/
  | waitForGroup
  /-- Up `mutex`. -/
  | waitForGroupLeave
  /-- Down `receptionistReq`. -/
  | waitForGroupWait
  /-- Down `mutex`; copy `receptionistRequest`. -/
  | waitForGroupRead
  /-- Up `mutex`. -/
  | waitForGroupReadLeave (req : Request)
  /-- Up `receptionistRequestPossible`, then dispatch on `req`. -/
  | waitForGroupRelease (req : Request)
  /-- `provideTableOrWaitingRoom`: down `mutex`, decide, seat or queue. -/
  | provideTableOrWaitingRoom (group : Nat)
  /-- Up `waitForTable[group]`. -/
  | provideTableSignal (group : Nat)
  /-- Up `mutex`. -/
  | provideTableLeave
  /-- `receivePayment`: down `mutex`, free the table, pick a waiting group. -/
  | receivePayment (group : Nat)
  /-- Up `waitForTable[next]`; then hand `table` over to `next`. -/
  | receivePaymentSignal (group next : Nat) (table : Int)
  /-- Up `mutex`. -/
  | receivePaymentLeave (group : Nat) (table : Int)
  /-- Up `tableDone[table]`. -/
  | receivePaymentDone (group : Nat) (table : Int)
  /-- `assert (groupRecord[group_id] < 2)` failed. -/
  | aborted
  deriving DecidableEq, Repr

/-- Where the waiter is in its loop. -/
inductive WaiterPc where
  /-- Loop head; `waitForClientOrChef`: down `mutex`, save `WAIT_FOR_REQUEST`. -/
  | waitForClientOrChef
  /-- Up `mutex`. -/
  | waitForClientOrChefLeave
  /-- Down `waiterRequest`. -/
  | waitForClientOrChefWait
  /-- Down `mutex`; copy `waiterRequest`. -/
  | waitForClientOrChefRead
  /-- Up `mutex`. -/
  | waitForClientOrChefReadLeave (req : Request)
  /-- Up `waiterRequestPossible`, then dispatch on `req`. -/
  | waitForClientOrChefRelease (req : Request)
  /-- `informChef`: down `mutex`; set `foodOrder`, `foodGroup`, read `assignedTable`. -/
  | informChef (group : Nat)
  /-- Up `mutex`. -/
  | informChefLeave (group : Nat) (table : Int)
  /-- Up `requestReceived[table]`. -/
  | informChefSignal (group : Nat) (table : Int)
  /-- Up `waitOrder`. -/
  | informChefOrder (group : Nat)
  /-- Down `orderReceived`. -/
  | informChefWait (group : Nat)
  /-- `takeFoodToTable`: down `mutex`; read `assignedTable`. -/
  | takeFoodToTable (group : Nat)
  /-- Up `foodArrived[table]`. -/
  | takeFoodToTableSignal (group : Nat) (table : Int)
  /-- Up `mutex`. -/
  | takeFoodToTableLeave (group : Nat)
  deriving DecidableEq, Repr

/-- Where the chef is in its loop. -/
inductive ChefPc where
  /-- Loop head; `waitForOrder`: down `waitOrder`. -/
  | waitForOrder
  /-- Down `mutex`; take `foodGroup`. -/
  | waitForOrderRead
  /-- Up `mutex`. -/
  | waitForOrderLeave (group : Nat)
  /-- Up `orderReceived`. -/
  | waitForOrderAck (group : Nat)
  /-- `processOrder`, after cooking: down `waiterRequestPossible`. -/
  | processOrder (group : Nat)
  /-- Down `mutex`; post `FOODREADY`. -/
  | processOrderMutex (group : Nat)
  /-- Up `waiterRequest`. -/
  | processOrderPost (group : Nat)
  /-- Up `mutex`. -/
  | processOrderLeave
  deriving DecidableEq, Repr

/-- History kept for the specification only. -/
structure Ghost where
  /-- Every value stored into `receptionistRequest`, oldest first. -/
  receptionistWrites : List Request
  /-- Every value `waitForGroup` copied out of it. -/
  receptionistReads : List Request
  /-- Every value stored into `waiterRequest`. -/
  waiterWrites : List Request
  /-- Every value `waitForClientOrChef` copied out of it. -/
  waiterReads : List Request
  /-- Every `foodGroup` `informChef` stored. -/
  orderWrites : List Nat
  /-- Every `foodGroup` the chef took. -/
  orderReads : List Nat
  /-- The groups `informChef` has signalled on `requestReceived`. -/
  informed : List Nat
  /-- The groups `takeFoodToTable` has signalled on `foodArrived`. -/
  served : List Nat

/-- The whole system. -/
structure State where
  groupStat : Nat → GroupStat
  receptionistStat : ReceptionistStat
  waiterStat : WaiterStat
  assignedTable : Nat → Int
  groupsWaiting : Int
  receptionistRequest : Request
  waiterRequest : Request
  foodOrder : Nat
  foodGroup : Nat
  sem : Sem → Nat
  group : Nat → GroupPc
  receptionist : ReceptionistPc
  /-- The receptionist's `nReq`. -/
  receptionistReqs : Nat
  groupRecord : Nat → GroupRecord
  waiter : WaiterPc
  /-- The waiter's `nReq`. -/
  waiterReqs : Nat
  chef : ChefPc
  /-- Orders the chef has taken. -/
  chefOrders : Nat
  ghost : Ghost

namespace State

/-- `semUp`. -/
def up (s : State) (x : Sem) : State :=
  { s with sem := Function.update s.sem x (s.sem x + 1) }

/-- `semDown`: enabled only on a positive counter. -/
def down (s : State) (x : Sem) : Option State :=
  if 0 < s.sem x then some { s with sem := Function.update s.sem x (s.sem x - 1) } else none

/-- Move group `g` to `pc`. -/
def setGroup (s : State) (g : Nat) (pc : GroupPc) : State :=
  { s with group := Function.update s.group g pc }

/-- Group `g` saves `st`. -/
def setStat (s : State) (g : Nat) (st : GroupStat) : State :=
  { s with groupStat := Function.update s.groupStat g st }

/-- Store `r` into `receptionistRequest`, noting the write. -/
def postReceptionist (s : State) (r : Request) : State :=
  { s with receptionistRequest := r,
           ghost := { s.ghost with receptionistWrites := s.ghost.receptionistWrites ++ [r] } }

/-- Store `r` into `waiterRequest`, noting the write. -/
def postWaiter (s : State) (r : Request) : State :=
  { s with waiterRequest := r,
           ghost := { s.ghost with waiterWrites := s.ghost.waiterWrites ++ [r] } }

theorem down_eq_some {s t : State} {x : Sem} :
    s.down x = some t ↔ 0 < s.sem x ∧ t = { s with sem := Function.update s.sem x (s.sem x - 1) } := by
  unfold down; split <;> simp_all [eq_comm]

@[simp] theorem up_sem_self (s : State) (x : Sem) : (s.up x).sem x = s.sem x + 1 := by
  simp [up]

@[simp] theorem up_sem_of_ne (s : State) {x y : Sem} (h : y ≠ x) : (s.up x).sem y = s.sem y := by
  simp [up, h]

end State

end Restaurant
