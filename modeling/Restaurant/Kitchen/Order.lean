import Restaurant.Service
/-!
# Restaurant — the kitchen serves in order

The waiter passes orders to the chef one at a time through `foodGroup`;
the chef takes them in that order, cooks one at a time, and posts each
`FOODREADY` into the waiter's mailbox, which the waiter reads in the
order it was written. So the meals come out in the order the orders
went in. `KitchenOrder` ties the logs of the two ends together: the
chef's `FOODREADY`s are the orders it has taken, but the one it is
cooking (`cooked`), and the waiter's reads of them are the groups it has
served, but the one it is serving (`served`). Every step keeps it
(`KitchenOrder.step`), and with the kitchen's mailbox accounting it
gives first in, first out (`kitchen_fifo`).
-/

namespace Restaurant

open State

variable {NUMTABLES nGroups : Nat} {s s' : State}

/-- The groups of the `FOODREADY` requests of a log, in order. -/
def readyGroups (l : List Request) : List Nat :=
  (l.filter (·.reqType == .FOODREADY)).map (·.reqGroup)

@[simp] theorem readyGroups_nil : readyGroups [] = [] := rfl

@[simp] theorem readyGroups_append (l l' : List Request) :
    readyGroups (l ++ l') = readyGroups l ++ readyGroups l' := by
  simp [readyGroups, List.filter_append]

@[simp] theorem readyGroups_singleton (r : Request) :
    readyGroups [r] = if r.reqType = .FOODREADY then [r.reqGroup] else [] := by
  by_cases h : r.reqType = .FOODREADY <;> simp [readyGroups, h]

/-- **The kitchen's order invariant.** -/
structure KitchenOrder (s : State) : Prop where
  /-- The chef posts `FOODREADY` in the order it takes the orders. -/
  cooked : readyGroups s.ghost.waiterWrites ++ s.chef.holds.toList = s.ghost.orderReads
  /-- The waiter serves the `FOODREADY`s in the order it reads them. -/
  served : readyGroups s.ghost.waiterReads = s.ghost.served ++ readyGroups s.waiter.holds.toList

theorem kitchenOrder_initial (h : Initial s) : KitchenOrder s :=
  ⟨by simp [h.ghost, h.chef, ChefPc.holds], by simp [h.ghost, h.waiter, WaiterPc.holds]⟩

/-- Equal logs and points keep the invariant. -/
theorem KitchenOrder.congr (hO : KitchenOrder s)
    (hww : s'.ghost.waiterWrites = s.ghost.waiterWrites) (hC : s'.chef = s.chef)
    (hor : s'.ghost.orderReads = s.ghost.orderReads)
    (hwr : s'.ghost.waiterReads = s.ghost.waiterReads) (hsv : s'.ghost.served = s.ghost.served)
    (hW : s'.waiter = s.waiter) : KitchenOrder s' :=
  ⟨by rw [hww, hC, hor]; exact hO.cooked, by rw [hwr, hsv, hW]; exact hO.served⟩

/-- A group's step writes at most a `FOODREQ`, which the chef's log
does not count. -/
theorem KitchenOrder.groupStep (hO : KitchenOrder s) {g : Nat} (h : groupStep s g = some s') :
    KitchenOrder s' := by
  obtain ⟨-, -, -, -, -, hW, -, hC, -, -, -, hwr, -, hor, -, hsv, -⟩ := groupStep_frame h
  have hww : readyGroups s'.ghost.waiterWrites = readyGroups s.ghost.waiterWrites := by
    by_cases h6 : (s.group g).idx = 6
    · simp [(groupStep_waiterPost h h6).1]
    · rw [(groupStep_waiterMail h h6).2]
  exact ⟨by rw [hww, hC, hor]; exact hO.cooked, by rw [hwr, hsv, hW]; exact hO.served⟩

/-- The waiter reads its mailbox and serves what it read; it writes
neither the mailbox nor the chef's log. -/
theorem KitchenOrder.waiterStep (hO : KitchenOrder s) (h : waiterStep nGroups s = some s') :
    KitchenOrder s' := by
  obtain ⟨hc, hsv⟩ := hO
  cases hp : s.waiter <;> simp only [Restaurant.waiterStep, hp] at h <;> (try split at h) <;>
    simp only [Option.map_eq_some', down_eq_some, Option.some.injEq, reduceCtorEq, false_and,
      exists_const] at h
  all_goals obtain ⟨_, ⟨-, rfl⟩, rfl⟩ := h
  all_goals
    simp only [hp, WaiterPc.holds, Option.toList_some, Option.toList_none, readyGroups_singleton,
      readyGroups_nil, List.append_nil] at hsv
    refine ⟨hc, ?_⟩
    simp_all [up, WaiterPc.holds]

/-- The chef logs the order it takes and posts its `FOODREADY` when done;
it reads nothing the waiter serves from. -/
theorem KitchenOrder.chefStep (hO : KitchenOrder s) (h : chefStep nGroups s = some s') :
    KitchenOrder s' := by
  obtain ⟨hc, hsv⟩ := hO
  cases hp : s.chef <;> simp only [Restaurant.chefStep, hp] at h <;> (try split at h) <;>
    simp only [Option.map_eq_some', down_eq_some, Option.some.injEq, reduceCtorEq, false_and,
      exists_const] at h
  all_goals obtain ⟨_, ⟨-, rfl⟩, rfl⟩ := h
  all_goals
    simp only [hp, ChefPc.holds, Option.toList_some, Option.toList_none, List.append_nil] at hc
    refine ⟨?_, hsv⟩
    simp_all [up, postWaiter, ChefPc.holds]

theorem KitchenOrder.step (hO : KitchenOrder s) {a : Actor}
    (h : step NUMTABLES nGroups s a = some s') : KitchenOrder s' := by
  cases a with
  | group g =>
    simp only [Restaurant.step] at h
    split at h
    · exact hO.groupStep h
    · cases h
  | receptionist =>
    obtain ⟨-, hW, -, hC, -, -, -, hww, hwr, -, hor, -, hsv, -⟩ := receptionistStep_frame h
    exact hO.congr hww hC hor hwr hsv hW
  | waiter => exact hO.waiterStep h
  | chef => exact hO.chefStep h

theorem kitchenOrder_reachable (h : Reachable NUMTABLES nGroups s) : KitchenOrder s := by
  induction h with
  | init hi => exact kitchenOrder_initial hi
  | step _ _ hs ih => exact ih.step hs

/-- The chef takes only orders the waiter has finished handing over:
while `informChef` is between its store and its signal, the order is
still in the slot. -/
theorem Kitchen.orderReads_prefix (hT : Tokens nGroups s) (hK : Kitchen NUMTABLES nGroups s) :
    s.ghost.orderReads <+: s.ghost.informed := by
  have ho := hK.orders
  rw [hK.ordered] at ho
  cases hi : s.waiter.informing with
  | none =>
    rw [hi, Option.toList_none, List.append_nil] at ho
    exact ⟨_, ho⟩
  | some g =>
    have hord : s.waiter.ordering = true := by
      cases hw : s.waiter <;> simp [hw, WaiterPc.informing] at hi ⊢ <;> rfl
    have h1 : orderPending s = 1 := le_antisymm (orderPending_le_one hT) (by
      unfold orderPending; rw [hord, Bool.toNat_true]; omega)
    rw [hi, h1, Option.toList_some, List.replicate_one] at ho
    exact ⟨[], by rw [List.append_nil]; exact (List.append_inj' ho rfl).1⟩

/-- **The kitchen is first in, first out.** The waiter takes the meals
to the tables in exactly the order it passed the orders to the chef: the
groups it has served, in order, are a prefix of the groups whose orders
it has handed over, in order, and it serves no group twice. -/
theorem kitchen_fifo (h : Reachable NUMTABLES nGroups s) :
    s.ghost.served <+: s.ghost.informed ∧ s.ghost.served.Nodup := by
  obtain ⟨hT, -, hK⟩ := kitchen_reachable h
  have hO := kitchenOrder_reachable h
  have hmail := hK.mail
  have hpre : s.ghost.served <+: s.ghost.informed :=
    calc s.ghost.served <+: readyGroups s.ghost.waiterReads := ⟨_, hO.served.symm⟩
      _ <+: readyGroups s.ghost.waiterWrites := ⟨_, by rw [← hmail, readyGroups_append]⟩
      _ <+: s.ghost.orderReads := ⟨_, hO.cooked⟩
      _ <+: s.ghost.informed := hK.orderReads_prefix hT
  have hinf : s.ghost.informed.Nodup := by
    have := hK.nodup
    rw [hK.ordered] at this
    exact List.Nodup.sublist (List.sublist_append_left _ _) this
  exact ⟨hpre, List.Nodup.sublist hpre.sublist hinf⟩

theorem kitchen_fifo_dinnerState :
    dinnerState.ghost.served <+: dinnerState.ghost.informed ∧ dinnerState.ghost.served.Nodup :=
  kitchen_fifo reachable_dinnerState

end Restaurant
