import Restaurant.Points
/-!
# Restaurant — token accounting

Each semaphore pair of the protocol passes one token around, and the
token is always somewhere: on the counter or with exactly one process.
`Tokens` says so for `mutex`, for the receptionist's and the waiter's
request permits (with `receptionistReq`/`waiterRequest`, the signal that
a mailbox is full), and for the waiter–chef hand-over
(`waitOrder`/`orderReceived`). Mutual exclusion is read off it: at most
one process holds `mutex` (`mutual_exclusion`), and while `mutex` is
free nobody does (`Tokens.mutex_free`).
-/

namespace Restaurant

open State

variable {nGroups : Nat}

/-- **The token invariant.** -/
structure Tokens (nGroups : Nat) (s : State) : Prop where
  mutex : s.sem .mutex + countAt nGroups GroupPc.holdsMutex s.group
    + s.receptionist.holdsMutex.toNat + s.waiter.holdsMutex.toNat + s.chef.holdsMutex.toNat = 1
  receptionistSlot : s.sem .receptionistRequestPossible + s.sem .receptionistReq
    + countAt nGroups GroupPc.holdsReceptionistSlot s.group
    + s.receptionist.holdsSlot.toNat = 1
  waiterSlot : s.sem .waiterRequestPossible + s.sem .waiterRequest
    + countAt nGroups GroupPc.holdsWaiterSlot s.group
    + s.chef.holdsSlot.toNat + s.waiter.holdsSlot.toNat = 1
  order : s.sem .waitOrder + s.sem .orderReceived + s.chef.handshake.toNat
    = s.waiter.awaitsChef.toNat

theorem tokens_initial {s : State} (h : Initial s) : Tokens nGroups s := by
  have hc : ∀ f : GroupPc → Bool, f .goToRestaurant = false → countAt nGroups f s.group = 0 :=
    fun f hf => countGroups_eq_zero.2 fun g _ => by rw [h.group g, hf]
  constructor <;>
    simp [h.sem, initialSem, h.receptionist, h.waiter, h.chef, hc _ (rfl : GroupPc.holdsMutex _ = _),
      hc _ (rfl : GroupPc.holdsReceptionistSlot _ = _), hc _ (rfl : GroupPc.holdsWaiterSlot _ = _),
      ReceptionistPc.holdsMutex, WaiterPc.holdsMutex, ChefPc.holdsMutex, ReceptionistPc.holdsSlot,
      WaiterPc.holdsSlot, ChefPc.holdsSlot, ChefPc.handshake, WaiterPc.awaitsChef]

/-- A group's step moves only that group. -/
theorem groupStep_group {s s' : State} {g : Nat} (h : groupStep s g = some s') :
    s'.group = Function.update s.group g (s'.group g) := by
  cases hp : s.group g <;>
    simp only [Restaurant.groupStep, hp, Option.map_eq_some', down_eq_some, Option.some.injEq,
      reduceCtorEq, false_and, exists_const] at h <;>
    obtain ⟨_, ⟨-, rfl⟩, rfl⟩ := h
  all_goals simp [setGroup, setStat, postReceptionist, postWaiter, up]

theorem Tokens.groupStep {s s' : State} {g : Nat} (hg : g < nGroups) (hT : Tokens nGroups s)
    (h : groupStep s g = some s') : Tokens nGroups s' := by
  obtain ⟨hm, hr, hw, ho⟩ := hT
  have e := groupStep_group h
  have c1 := countAt_update hg GroupPc.holdsMutex s.group (s'.group g)
  have c2 := countAt_update hg GroupPc.holdsReceptionistSlot s.group (s'.group g)
  have c3 := countAt_update hg GroupPc.holdsWaiterSlot s.group (s'.group g)
  rw [← e] at c1 c2 c3
  cases hp : s.group g <;>
    simp only [Restaurant.groupStep, hp, Option.map_eq_some', down_eq_some, Option.some.injEq,
      reduceCtorEq, false_and, exists_const] at h <;>
    obtain ⟨_, ⟨h0, rfl⟩, rfl⟩ := h
  all_goals
    simp only [hp, setGroup, setStat, postReceptionist, postWaiter, up, Function.update_same,
      GroupPc.holdsMutex, GroupPc.holdsReceptionistSlot, GroupPc.holdsWaiterSlot, Bool.toNat_true,
      Bool.toNat_false] at c1 c2 c3
    refine ⟨?_, ?_, ?_, ?_⟩ <;>
    simp only [setGroup, setStat, postReceptionist, postWaiter, up, Function.update_same,
      Function.update_noteq, ne_eq, reduceCtorEq, not_false_eq_true] <;>
    omega


variable {NUMTABLES : Nat}

@[simp] theorem provideTableOrWaitingRoom_holds {s : State} {g : Nat} :
    (provideTableOrWaitingRoom NUMTABLES nGroups s g).receptionist.holdsMutex = true ∧
      (provideTableOrWaitingRoom NUMTABLES nGroups s g).receptionist.holdsSlot = false := by
  rcases @provideTableOrWaitingRoom_receptionist NUMTABLES nGroups s g with h | h | h <;>
    simp [h, ReceptionistPc.holdsMutex, ReceptionistPc.holdsSlot]

@[simp] theorem receivePayment_holds {s : State} {g : Nat} :
    (receivePayment nGroups s g).receptionist.holdsMutex = true ∧
      (receivePayment nGroups s g).receptionist.holdsSlot = false := by
  obtain ⟨t, ⟨ng, h⟩ | h⟩ := @receivePayment_receptionist nGroups s g <;>
    simp [h, ReceptionistPc.holdsMutex, ReceptionistPc.holdsSlot]

theorem Tokens.receptionistStep {s s' : State} (hT : Tokens nGroups s)
    (h : receptionistStep NUMTABLES nGroups s = some s') : Tokens nGroups s' := by
  obtain ⟨hm, hr, hw, ho⟩ := hT
  cases hp : s.receptionist <;> simp only [Restaurant.receptionistStep, hp] at h <;>
    (try split at h) <;>
    simp only [Option.map_eq_some', down_eq_some, Option.some.injEq, reduceCtorEq, false_and,
      exists_const] at h
  all_goals obtain ⟨_, ⟨h0, rfl⟩, rfl⟩ := h
  all_goals
    simp only [hp, ReceptionistPc.holdsMutex, ReceptionistPc.holdsSlot, Bool.toNat_true,
      Bool.toNat_false] at hm hr
    refine ⟨?_, ?_, ?_, ?_⟩ <;>
    simp only [up, Function.update_same, Function.update_noteq, ne_eq, reduceCtorEq,
      not_false_eq_true, provideTableOrWaitingRoom_sem, provideTableOrWaitingRoom_group,
      provideTableOrWaitingRoom_waiter, provideTableOrWaitingRoom_chef, receivePayment_sem,
      receivePayment_group, receivePayment_waiter, receivePayment_chef,
      provideTableOrWaitingRoom_holds, receivePayment_holds, Bool.toNat_true] <;>
    (try simp only [ReceptionistPc.holdsMutex, ReceptionistPc.holdsSlot, Bool.toNat_true,
      Bool.toNat_false]) <;>
    omega

theorem Tokens.waiterStep {s s' : State} (hT : Tokens nGroups s)
    (h : waiterStep nGroups s = some s') : Tokens nGroups s' := by
  obtain ⟨hm, hr, hw, ho⟩ := hT
  cases hp : s.waiter <;> simp only [Restaurant.waiterStep, hp] at h <;>
    (try split at h) <;>
    simp only [Option.map_eq_some', down_eq_some, Option.some.injEq, reduceCtorEq, false_and,
      exists_const] at h
  all_goals obtain ⟨_, ⟨h0, rfl⟩, rfl⟩ := h
  all_goals
    simp only [hp, WaiterPc.holdsMutex, WaiterPc.holdsSlot, WaiterPc.awaitsChef, Bool.toNat_true,
      Bool.toNat_false] at hm hw ho
    refine ⟨?_, ?_, ?_, ?_⟩ <;>
    simp only [up, Function.update_same, Function.update_noteq, ne_eq, reduceCtorEq,
      not_false_eq_true, WaiterPc.holdsMutex, WaiterPc.holdsSlot, WaiterPc.awaitsChef,
      Bool.toNat_true, Bool.toNat_false] <;>
    omega

theorem Tokens.chefStep {s s' : State} (hT : Tokens nGroups s)
    (h : chefStep nGroups s = some s') : Tokens nGroups s' := by
  obtain ⟨hm, hr, hw, ho⟩ := hT
  cases hp : s.chef <;> simp only [Restaurant.chefStep, hp] at h <;>
    (try split at h) <;>
    simp only [Option.map_eq_some', down_eq_some, Option.some.injEq, reduceCtorEq, false_and,
      exists_const] at h
  all_goals obtain ⟨_, ⟨h0, rfl⟩, rfl⟩ := h
  all_goals
    simp only [hp, ChefPc.holdsMutex, ChefPc.holdsSlot, ChefPc.handshake, Bool.toNat_true,
      Bool.toNat_false] at hm hw ho
    refine ⟨?_, ?_, ?_, ?_⟩ <;>
    simp only [up, postWaiter, Function.update_same, Function.update_noteq, ne_eq, reduceCtorEq,
      not_false_eq_true, ChefPc.holdsMutex, ChefPc.holdsSlot, ChefPc.handshake, Bool.toNat_true,
      Bool.toNat_false] <;>
    omega

theorem Tokens.step {s s' : State} {a : Actor} (hT : Tokens nGroups s)
    (h : step NUMTABLES nGroups s a = some s') : Tokens nGroups s' := by
  cases a with
  | group g =>
    simp only [Restaurant.step] at h
    split at h
    · exact hT.groupStep (by assumption) h
    · cases h
  | receptionist => exact hT.receptionistStep h
  | waiter => exact hT.waiterStep h
  | chef => exact hT.chefStep h

/-- Process `a` holds `mutex`. -/
def Actor.holdsMutex (s : State) : Actor → Bool
  | .group g => (s.group g).holdsMutex
  | .receptionist => s.receptionist.holdsMutex
  | .waiter => s.waiter.holdsMutex
  | .chef => s.chef.holdsMutex

/-- The processes of a restaurant of `nGroups` groups. -/
def Actor.IsProcess (nGroups : Nat) : Actor → Prop
  | .group g => g < nGroups
  | _ => True

instance (nGroups : Nat) : DecidablePred (Actor.IsProcess nGroups)
  | .group g => inferInstanceAs (Decidable (g < nGroups))
  | .receptionist | .waiter | .chef => isTrue trivial

/-- Two holders of `mutex` are one process, and it has taken the
counter's token. -/
theorem Tokens.holdsMutex_unique {s : State} (hT : Tokens nGroups s) {a b : Actor}
    (ha : a.IsProcess nGroups) (hb : b.IsProcess nGroups) (hma : a.holdsMutex s = true)
    (hmb : b.holdsMutex s = true) : a = b ∧ s.sem .mutex = 0 := by
  have hm := hT.mutex
  have hc : ∀ g, g < nGroups → (s.group g).holdsMutex = true →
      0 < countAt nGroups GroupPc.holdsMutex s.group := fun g hg h => countGroups_pos.2 ⟨g, hg, h⟩
  cases a <;> cases b <;> simp only [Actor.holdsMutex, Actor.IsProcess] at ha hb hma hmb
  case group.group g h =>
    have := hc g ha hma
    exact ⟨congrArg _ (countGroups_le_one (show countAt nGroups GroupPc.holdsMutex s.group ≤ 1 by
      omega) ha hb hma hmb), by omega⟩
  case group.receptionist | group.waiter | group.chef =>
    have := hc _ ha hma; simp only [hmb, Bool.toNat_true] at hm; omega
  case receptionist.group | waiter.group | chef.group =>
    have := hc _ hb hmb; simp only [hma, Bool.toNat_true] at hm; omega
  all_goals simp only [hma, hmb, Bool.toNat_true] at hm; first | exact ⟨rfl, by omega⟩ | omega

/-- **While `mutex` is free, nobody holds it.** -/
theorem Tokens.mutex_free {s : State} (hT : Tokens nGroups s) (h0 : 0 < s.sem .mutex) :
    MutexFree nGroups s := by
  have := hT.mutex
  have hc : countAt nGroups GroupPc.holdsMutex s.group = 0 := by omega
  refine ⟨fun g hg => countGroups_eq_zero.1 hc g hg, ?_, ?_, ?_⟩ <;> rw [← Bool.toNat_eq_zero] <;>
    omega

theorem tokens_reachable {NUMTABLES : Nat} {s : State} (h : Reachable NUMTABLES nGroups s) :
    Tokens nGroups s := by
  induction h with
  | init hi => exact tokens_initial hi
  | step _ _ hs ih => exact ih.step hs

/-- **Mutual exclusion.** In every reachable state at most one process
holds `mutex`, and while one does the counter is zero. -/
theorem mutual_exclusion {NUMTABLES : Nat} {s : State} (h : Reachable NUMTABLES nGroups s)
    {a b : Actor} (ha : a.IsProcess nGroups) (hb : b.IsProcess nGroups)
    (hma : a.holdsMutex s = true) (hmb : b.holdsMutex s = true) :
    a = b ∧ s.sem .mutex = 0 :=
  (tokens_reachable h).holdsMutex_unique ha hb hma hmb

/-- Group 0 has written its `TABLEREQ` and holds `mutex`. -/
def checkInState : State := (run 1 2 initState [.group 0, .group 0]).getD initState

theorem mutual_exclusion_checkInState :
    (Actor.group 0).holdsMutex checkInState = true ∧ checkInState.sem .mutex = 0 :=
  have hm : (Actor.group 0).holdsMutex checkInState = true := by decide
  ⟨hm, (mutual_exclusion
    (Reachable.run_getD (.init initial_initState) (by decide) : Reachable 1 2 checkInState)
    (by decide : (Actor.group 0).IsProcess 2) (by decide : (Actor.group 0).IsProcess 2) hm hm).2⟩

end Restaurant
