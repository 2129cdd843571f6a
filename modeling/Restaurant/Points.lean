import Restaurant.System
import Mathlib.Data.List.Range
/-!
# Restaurant — reading the program points

What each program point says about the semaphores and mailboxes: who
holds `mutex`, who holds a request permit, who has written a mailbox
and not yet signalled it, what request an actor carries. The invariants
count these, over the groups, with `countGroups`.
-/

namespace Restaurant

/-- The number of groups below `nGroups` that `p` holds of. -/
def countGroups (nGroups : Nat) (p : Nat → Bool) : Nat := (List.range nGroups).countP p

/-- The number of groups below `nGroups` whose point `f` holds of. -/
def countAt (nGroups : Nat) (f : GroupPc → Bool) (G : Nat → GroupPc) : Nat :=
  countGroups nGroups fun g => f (G g)

namespace GroupPc

/-- The position of a point in the group's code. -/
def idx : GroupPc → Nat
  | .goToRestaurant => 0
  | .checkInMutex => 1
  | .checkInPost => 2
  | .checkInLeave => 3
  | .checkInWaitTable => 4
  | .orderFoodPossible => 5
  | .orderFoodMutex => 6
  | .orderFoodPost => 7
  | .orderFoodLeave _ => 8
  | .orderFoodWait _ => 9
  | .waitFoodMutex => 10
  | .waitFoodLeave _ => 11
  | .waitFoodWait _ => 12
  | .waitFoodEat => 13
  | .waitFoodEatLeave => 14
  | .checkOutPossible => 15
  | .checkOutMutex => 16
  | .checkOutPost _ => 17
  | .checkOutLeave _ => 18
  | .checkOutWait _ => 19
  | .checkOutLeaving _ => 20
  | .checkOutLeavingLeave _ => 21
  | .exited _ => 22

/-- The semaphore group `g`'s next operation works on. -/
def semOp (g : Nat) : GroupPc → Sem
  | .goToRestaurant | .checkOutPossible => .receptionistRequestPossible
  | .checkInPost | .checkOutPost _ => .receptionistReq
  | .checkInWaitTable => .waitForTable g
  | .orderFoodPossible => .waiterRequestPossible
  | .orderFoodPost => .waiterRequest
  | .orderFoodWait t => .requestReceived t
  | .waitFoodWait t => .foodArrived t
  | .checkOutWait t => .tableDone t
  | _ => .mutex

theorem semOp_eq_waitForTable {g h : Nat} {p : GroupPc} (e : p.semOp g = .waitForTable h) :
    p = .checkInWaitTable ∧ h = g := by
  cases p <;> simp_all [semOp]

/-- The local `table_id`, where the code has one. -/
def table? : GroupPc → Option Int
  | .orderFoodLeave t | .orderFoodWait t | .waitFoodLeave t | .waitFoodWait t
  | .checkOutPost t | .checkOutLeave t | .checkOutWait t | .checkOutLeaving t
  | .checkOutLeavingLeave t | .exited t => some t
  | _ => none

/-- The group holds `mutex`. -/
def holdsMutex : GroupPc → Bool
  | .checkInPost | .checkInLeave | .orderFoodPost | .orderFoodLeave _ | .waitFoodLeave _
  | .waitFoodEatLeave | .checkOutPost _ | .checkOutLeave _ | .checkOutLeavingLeave _ => true
  | _ => false

/-- The group holds the receptionist's request permit and has not yet
handed it on through `receptionistReq`. -/
def holdsReceptionistSlot : GroupPc → Bool
  | .checkInMutex | .checkInPost | .checkOutMutex | .checkOutPost _ => true
  | _ => false

/-- The group has written `receptionistRequest` and not yet signalled it. -/
def postsReceptionist : GroupPc → Bool
  | .checkInPost | .checkOutPost _ => true
  | _ => false

/-- The group holds the waiter's request permit. -/
def holdsWaiterSlot : GroupPc → Bool
  | .orderFoodMutex | .orderFoodPost => true
  | _ => false

/-- The group has written `waiterRequest` and not yet signalled it. -/
def postsWaiter : GroupPc → Bool
  | .orderFoodPost => true
  | _ => false

end GroupPc

namespace ReceptionistPc

/-- The receptionist holds `mutex`. -/
def holdsMutex : ReceptionistPc → Bool
  | .waitForGroupLeave | .waitForGroupReadLeave _ | .provideTableSignal _ | .provideTableLeave
  | .receivePaymentSignal _ _ _ | .receivePaymentLeave _ _ | .aborted => true
  | _ => false

/-- Between taking `receptionistReq` and giving the permit back. -/
def holdsSlot : ReceptionistPc → Bool
  | .waitForGroupRead | .waitForGroupReadLeave _ | .waitForGroupRelease _ => true
  | _ => false

/-- About to copy the mailbox. -/
def reads : ReceptionistPc → Bool
  | .waitForGroupRead => true
  | _ => false

/-- The request copied out of the mailbox and not yet acted on. -/
def holds : ReceptionistPc → Option Request
  | .waitForGroupReadLeave r | .waitForGroupRelease r => some r
  | .provideTableOrWaitingRoom g => some ⟨.TABLEREQ, g⟩
  | .receivePayment g => some ⟨.BILLREQ, g⟩
  | _ => none

/-- Serving a request: `nReq` is one behind the requests read. -/
def busy : ReceptionistPc → Bool
  | .waitForGroup | .waitForGroupLeave | .waitForGroupWait | .waitForGroupRead => false
  | _ => true

end ReceptionistPc

namespace WaiterPc

/-- The waiter holds `mutex`. -/
def holdsMutex : WaiterPc → Bool
  | .waitForClientOrChefLeave | .waitForClientOrChefReadLeave _ | .informChefLeave _ _
  | .takeFoodToTableSignal _ _ | .takeFoodToTableLeave _ => true
  | _ => false

/-- Between taking `waiterRequest` and giving the permit back. -/
def holdsSlot : WaiterPc → Bool
  | .waitForClientOrChefRead | .waitForClientOrChefReadLeave _
  | .waitForClientOrChefRelease _ => true
  | _ => false

/-- About to copy the mailbox. -/
def reads : WaiterPc → Bool
  | .waitForClientOrChefRead => true
  | _ => false

/-- Waiting for the chef's `orderReceived`. -/
def awaitsChef : WaiterPc → Bool
  | .informChefWait _ => true
  | _ => false

/-- The order written to `foodGroup` and not yet signalled on `waitOrder`. -/
def ordering : WaiterPc → Bool
  | .informChefLeave _ _ | .informChefSignal _ _ | .informChefOrder _ => true
  | _ => false

/-- Serving a request: `nReq` is one behind the requests read. -/
def busy : WaiterPc → Bool
  | .waitForClientOrChef | .waitForClientOrChefLeave | .waitForClientOrChefWait
  | .waitForClientOrChefRead => false
  | _ => true

end WaiterPc

namespace ChefPc

/-- The chef holds `mutex`. -/
def holdsMutex : ChefPc → Bool
  | .waitForOrderLeave _ | .processOrderPost _ | .processOrderLeave => true
  | _ => false

/-- The chef holds the waiter's request permit. -/
def holdsSlot : ChefPc → Bool
  | .processOrderMutex _ | .processOrderPost _ => true
  | _ => false

/-- The chef has written `waiterRequest` and not yet signalled it. -/
def posts : ChefPc → Bool
  | .processOrderPost _ => true
  | _ => false

/-- Between taking `waitOrder` and giving `orderReceived`. -/
def handshake : ChefPc → Bool
  | .waitForOrderRead | .waitForOrderLeave _ | .waitForOrderAck _ => true
  | _ => false

/-- About to take `foodGroup`. -/
def reads : ChefPc → Bool
  | .waitForOrderRead => true
  | _ => false

/-- The order taken and not yet posted back as `FOODREADY`. -/
def holds : ChefPc → Option Nat
  | .waitForOrderLeave g | .waitForOrderAck g | .processOrder g | .processOrderMutex g => some g
  | _ => none

/-- Between taking an order and finishing its post: `chefOrders` is one
behind the orders taken. -/
def busy : ChefPc → Bool
  | .waitForOrder | .waitForOrderRead => false
  | _ => true

end ChefPc

/-- No process holds `mutex`: each is outside its critical sections. -/
def MutexFree (nGroups : Nat) (s : State) : Prop :=
  (∀ g, g < nGroups → (s.group g).holdsMutex = false) ∧ s.receptionist.holdsMutex = false ∧
    s.waiter.holdsMutex = false ∧ s.chef.holdsMutex = false

/-! ## Counting groups -/

theorem countGroups_succ (n : Nat) (p : Nat → Bool) :
    countGroups (n + 1) p = countGroups n p + (p n).toNat := by
  simp only [countGroups, List.range_succ, List.countP_append, List.countP_singleton]
  cases p n <;> rfl

/-- **Changing one group changes the count by at most that group.** -/
theorem countGroups_update {n g : Nat} (hg : g < n) {p q : Nat → Bool}
    (h : ∀ i, i ≠ g → q i = p i) :
    countGroups n q + (p g).toNat = countGroups n p + (q g).toNat := by
  induction n with
  | zero => omega
  | succ n ih =>
    rw [countGroups_succ, countGroups_succ]
    rcases Nat.lt_or_ge g n with hlt | hge
    · rw [h n (by omega)]; have := ih hlt; omega
    · obtain rfl : g = n := by omega
      have : countGroups g q = countGroups g p := by
        unfold countGroups
        exact List.countP_congr fun i hi => by rw [h i (by simp at hi; omega)]
      omega

theorem countGroups_le (n : Nat) (p : Nat → Bool) : countGroups n p ≤ n := by
  simpa [countGroups] using List.countP_le_length p (l := List.range n)

theorem countGroups_congr {n : Nat} {p q : Nat → Bool} (h : ∀ i, i < n → q i = p i) :
    countGroups n q = countGroups n p :=
  List.countP_congr fun i hi => by rw [h i (List.mem_range.1 hi)]

theorem countGroups_eq_zero {n : Nat} {p : Nat → Bool} :
    countGroups n p = 0 ↔ ∀ i, i < n → p i = false := by
  simp [countGroups, List.countP_eq_zero]

theorem countGroups_pos {n : Nat} {p : Nat → Bool} :
    0 < countGroups n p ↔ ∃ i, i < n ∧ p i = true := by
  simp [countGroups, List.countP_pos_iff]

/-- `countGroups_update` for a change of one group's point. -/
theorem countAt_update {n g : Nat} (hg : g < n) (f : GroupPc → Bool) (G : Nat → GroupPc)
    (p : GroupPc) :
    countAt n f (Function.update G g p) + (f (G g)).toNat = countAt n f G + (f p).toNat := by
  have := countGroups_update (p := fun i => f (G i)) (q := fun i => f (Function.update G g p i)) hg
    fun i hi => by simp only [Function.update_noteq hi]
  simpa [countAt] using this

theorem countGroups_le_one {n : Nat} {p : Nat → Bool} (h : countGroups n p ≤ 1) {i j : Nat}
    (hi : i < n) (hj : j < n) (hpi : p i = true) (hpj : p j = true) : i = j := by
  by_contra hne
  let q := fun k => if k = i then false else p k
  have h1 := countGroups_update (q := q) hi (fun k hk => if_neg hk)
  have h2 : 0 < countGroups n q := countGroups_pos.2 ⟨j, hj, by simp [q, Ne.symm hne, hpj]⟩
  have hq : (q i).toNat = 0 := by simp [q]
  rw [hpi, hq] at h1
  simp only [Bool.toNat_true] at h1
  omega

end Restaurant
