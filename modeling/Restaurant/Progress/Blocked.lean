import Restaurant.Service
/-!
# Restaurant — blocked processes

When a process cannot move. Every point of a process's code that holds
`mutex` is followed by a `semUp` or by local work, so a process that
cannot move holds no `mutex`: it waits in a `semDown` on a zero counter,
or it has run to its end. In a state where nobody can move `mutex` is
therefore free (`Stuck.mutex_eq_one`), and each group is parked at one
of the other semaphores of its protocol (`Stuck.group_parked`), holding
no permit and with no request in flight (`Stuck.counts`).
-/

namespace Restaurant

open State

variable {NUMTABLES nGroups : Nat} {s : State}

/-- The points where a group waits on a semaphore other than `mutex`,
and its end. -/
def GroupPc.parked : GroupPc → Bool
  | .goToRestaurant | .checkInWaitTable | .orderFoodPossible | .orderFoodWait _
  | .waitFoodWait _ | .checkOutPossible | .checkOutWait _ | .exited _ => true
  | _ => false

/-- A parked group holds no permit and has no request in flight. -/
theorem GroupPc.parked_frees {p : GroupPc} (h : p.parked = true) :
    p.holdsMutex = false ∧ p.holdsReceptionistSlot = false ∧ p.holdsWaiterSlot = false ∧
      p.postsReceptionist = false ∧ p.postsWaiter = false := by
  cases p <;> simp_all [GroupPc.parked, GroupPc.holdsMutex, GroupPc.holdsReceptionistSlot,
    GroupPc.holdsWaiterSlot, GroupPc.postsReceptionist, GroupPc.postsWaiter]

/-! ## One process at a time -/

theorem groupStep_ne_none_of_holdsMutex {g : Nat} (h : (s.group g).holdsMutex = true) :
    groupStep s g ≠ none := by
  cases hp : s.group g <;> simp_all [groupStep, GroupPc.holdsMutex]

/-- **A blocked group is parked**: with `mutex` free, a group that cannot
move has returned, or waits on a zero counter other than `mutex`. -/
theorem groupStep_eq_none (hm : 0 < s.sem .mutex) {g : Nat} (h : groupStep s g = none) :
    (s.group g).parked ∧ ((∃ t, s.group g = .exited t) ∨ s.sem ((s.group g).semOp g) = 0) := by
  cases hp : s.group g <;> simp_all [groupStep, down, GroupPc.parked, GroupPc.semOp]

theorem receptionistStep_ne_none_of_holdsMutex (h : s.receptionist.holdsMutex = true)
    (ha : s.receptionist ≠ .aborted) : receptionistStep NUMTABLES nGroups s ≠ none := by
  cases hp : s.receptionist <;> simp_all [receptionistStep, ReceptionistPc.holdsMutex]

/-- With `mutex` free, a receptionist that cannot move has served its
`2 * nGroups` requests, or waits for one. -/
theorem receptionistStep_eq_none (hm : 0 < s.sem .mutex) (ha : s.receptionist ≠ .aborted)
    (h : receptionistStep NUMTABLES nGroups s = none) :
    s.receptionist = .waitForGroup ∧ 2 * nGroups ≤ s.receptionistReqs ∨
      s.receptionist = .waitForGroupWait ∧ s.sem .receptionistReq = 0 := by
  cases hp : s.receptionist <;> simp only [receptionistStep, hp] at h
  case waitForGroup =>
    split at h
    · simp [down, hm] at h
    · exact .inl ⟨rfl, by omega⟩
  case waitForGroupWait => simp_all [down]
  case waitForGroupRelease r => split at h <;> cases h
  case aborted => exact absurd hp ha
  all_goals simp_all [down]

theorem waiterStep_ne_none_of_holdsMutex (h : s.waiter.holdsMutex = true) :
    waiterStep nGroups s ≠ none := by
  cases hp : s.waiter <;> simp_all [waiterStep, WaiterPc.holdsMutex]

/-- With `mutex` free, a waiter that cannot move has served its
`2 * nGroups` requests, or waits for a request or for the chef. -/
theorem waiterStep_eq_none (hm : 0 < s.sem .mutex) (h : waiterStep nGroups s = none) :
    s.waiter = .waitForClientOrChef ∧ 2 * nGroups ≤ s.waiterReqs ∨
      s.waiter = .waitForClientOrChefWait ∧ s.sem .waiterRequest = 0 ∨
      ∃ g, s.waiter = .informChefWait g ∧ s.sem .orderReceived = 0 := by
  cases hp : s.waiter <;> simp only [waiterStep, hp] at h
  case waitForClientOrChef =>
    split at h
    · simp [down, hm] at h
    · exact .inl ⟨rfl, by omega⟩
  case waitForClientOrChefWait => simp_all [down]
  case waitForClientOrChefRelease r => split at h <;> cases h
  case informChefWait g => simp_all [down]
  all_goals simp_all [down]

theorem chefStep_ne_none_of_holdsMutex (h : s.chef.holdsMutex = true) :
    chefStep nGroups s ≠ none := by
  cases hp : s.chef <;> simp_all [chefStep, ChefPc.holdsMutex]

/-- With `mutex` free, a chef that cannot move has cooked its `nGroups`
orders, or waits for an order or for the waiter's request permit. -/
theorem chefStep_eq_none (hm : 0 < s.sem .mutex) (h : chefStep nGroups s = none) :
    s.chef = .waitForOrder ∧ (nGroups ≤ s.chefOrders ∨ s.sem .waitOrder = 0) ∨
      ∃ g, s.chef = .processOrder g ∧ s.sem .waiterRequestPossible = 0 := by
  cases hp : s.chef <;> simp only [chefStep, hp] at h
  case waitForOrder =>
    split at h
    · simp_all [down]
    · exact .inl ⟨rfl, .inl (by omega)⟩
  case processOrder g => simp_all [down]
  all_goals simp_all [down]

/-! ## Nobody can move -/

namespace Stuck

variable (hst : Stuck NUMTABLES nGroups s)
include hst

theorem group {g : Nat} (hg : g < nGroups) : groupStep s g = none := by
  simpa [step, hg] using hst (.group g)

/-- **Nobody holds `mutex` in a stuck state.** -/
theorem mutex_eq_one (hT : Tokens nGroups s) (hS : Seating NUMTABLES nGroups s) :
    s.sem .mutex = 1 := by
  have hg : countAt nGroups GroupPc.holdsMutex s.group = 0 := countGroups_eq_zero.2 fun g hg =>
    Bool.eq_false_iff.2 fun hc => groupStep_ne_none_of_holdsMutex hc (hst.group hg)
  have hr : s.receptionist.holdsMutex = false := Bool.eq_false_iff.2 fun hc =>
    receptionistStep_ne_none_of_holdsMutex hc hS.not_aborted (hst .receptionist)
  have hw : s.waiter.holdsMutex = false := Bool.eq_false_iff.2 fun hc =>
    waiterStep_ne_none_of_holdsMutex hc (hst .waiter)
  have hc : s.chef.holdsMutex = false := Bool.eq_false_iff.2 fun hc =>
    chefStep_ne_none_of_holdsMutex hc (hst .chef)
  have := hT.mutex
  simp only [hg, hr, hw, hc, Bool.toNat_false] at this
  omega

variable (hT : Tokens nGroups s) (hS : Seating NUMTABLES nGroups s)
include hT hS

theorem group_parked {g : Nat} (hg : g < nGroups) :
    (s.group g).parked ∧ ((∃ t, s.group g = .exited t) ∨ s.sem ((s.group g).semOp g) = 0) :=
  groupStep_eq_none (by rw [hst.mutex_eq_one hT hS]; decide) (hst.group hg)

theorem receptionist :
    s.receptionist = .waitForGroup ∧ 2 * nGroups ≤ s.receptionistReqs ∨
      s.receptionist = .waitForGroupWait ∧ s.sem .receptionistReq = 0 :=
  receptionistStep_eq_none (by rw [hst.mutex_eq_one hT hS]; decide) hS.not_aborted
    (hst .receptionist)

theorem waiter :
    s.waiter = .waitForClientOrChef ∧ 2 * nGroups ≤ s.waiterReqs ∨
      s.waiter = .waitForClientOrChefWait ∧ s.sem .waiterRequest = 0 ∨
      ∃ g, s.waiter = .informChefWait g ∧ s.sem .orderReceived = 0 :=
  waiterStep_eq_none (by rw [hst.mutex_eq_one hT hS]; decide) (hst .waiter)

theorem chef :
    s.chef = .waitForOrder ∧ (nGroups ≤ s.chefOrders ∨ s.sem .waitOrder = 0) ∨
      ∃ g, s.chef = .processOrder g ∧ s.sem .waiterRequestPossible = 0 :=
  chefStep_eq_none (by rw [hst.mutex_eq_one hT hS]; decide) (hst .chef)

/-- **In a stuck state no permit is held and no request is in flight**,
but in the mailboxes' counters. -/
theorem counts :
    countAt nGroups GroupPc.holdsReceptionistSlot s.group = 0 ∧
      countAt nGroups GroupPc.holdsWaiterSlot s.group = 0 ∧
      countAt nGroups GroupPc.postsReceptionist s.group = 0 ∧
      countAt nGroups GroupPc.postsWaiter s.group = 0 := by
  have hp := fun g (hg : g < nGroups) => GroupPc.parked_frees (hst.group_parked hT hS hg).1
  exact ⟨countGroups_eq_zero.2 fun g hg => (hp g hg).2.1,
    countGroups_eq_zero.2 fun g hg => (hp g hg).2.2.1,
    countGroups_eq_zero.2 fun g hg => (hp g hg).2.2.2.1,
    countGroups_eq_zero.2 fun g hg => (hp g hg).2.2.2.2⟩

end Stuck

end Restaurant
