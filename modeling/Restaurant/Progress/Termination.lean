import Restaurant.Progress.Deadlock
/-!
# Restaurant — termination and completion

Every process runs a finite program: a group its visit once, the
receptionist and the waiter `2 * nGroups` rounds of their loops, the
chef one round per group. `progress` counts how far all of them have
come; every step moves it up (`progress_lt`) and it is bounded
(`progress_le`), so every run is finite (`run_length_le`) and from every
reachable state some run gets stuck (`exists_stuck_run`). With the
deadlock analysis this gives completion: with at most two tables or two
groups, from every reachable state some schedule reaches the final state
(`completion_reachable`). For any number of tables a stuck state is the
final one or the kitchen's deadlock (`stuck_final_or_kitchen_deadlock`),
and the final state has given back every token and freed every table
(`final_clean`).
-/

namespace Restaurant

open State

variable {NUMTABLES nGroups : Nat} {s s' : State}

/-- How far the receptionist is in its loop's body. -/
def ReceptionistPc.rank : ReceptionistPc → Nat
  | .waitForGroup => 0
  | .waitForGroupLeave => 1
  | .waitForGroupWait => 2
  | .waitForGroupRead => 3
  | .waitForGroupReadLeave _ => 4
  | .waitForGroupRelease _ => 5
  | .provideTableOrWaitingRoom _ | .receivePayment _ => 6
  | .provideTableSignal _ | .receivePaymentSignal _ _ _ => 7
  | .provideTableLeave | .receivePaymentLeave _ _ => 8
  | .receivePaymentDone _ _ => 9
  | .aborted => 10

/-- How far the waiter is in its loop's body. -/
def WaiterPc.rank : WaiterPc → Nat
  | .waitForClientOrChef => 0
  | .waitForClientOrChefLeave => 1
  | .waitForClientOrChefWait => 2
  | .waitForClientOrChefRead => 3
  | .waitForClientOrChefReadLeave _ => 4
  | .waitForClientOrChefRelease _ => 5
  | .informChef _ | .takeFoodToTable _ => 6
  | .informChefLeave _ _ | .takeFoodToTableSignal _ _ => 7
  | .informChefSignal _ _ | .takeFoodToTableLeave _ => 8
  | .informChefOrder _ => 9
  | .informChefWait _ => 10

/-- How far the chef is in its loop's body. -/
def ChefPc.rank : ChefPc → Nat
  | .waitForOrder => 0
  | .waitForOrderRead => 1
  | .waitForOrderLeave _ => 2
  | .waitForOrderAck _ => 3
  | .processOrder _ => 4
  | .processOrderMutex _ => 5
  | .processOrderPost _ => 6
  | .processOrderLeave => 7

theorem ReceptionistPc.rank_le (r : ReceptionistPc) : r.rank ≤ 10 := by cases r <;> simp [rank]
theorem WaiterPc.rank_le (w : WaiterPc) : w.rank ≤ 10 := by cases w <;> simp [rank]
theorem ChefPc.rank_le (c : ChefPc) : c.rank ≤ 7 := by cases c <;> simp [rank]

/-- How far every process has come: each group's point, and each loop's
rounds and point in its round. -/
def progress (nGroups : Nat) (s : State) : Nat :=
  (∑ g ∈ Finset.range nGroups, (s.group g).idx) + (s.receptionist.rank + 11 * s.receptionistReqs)
    + (s.waiter.rank + 11 * s.waiterReqs) + (s.chef.rank + 8 * s.chefOrders)

/-! ## Each step moves on -/

/-- A receptionist's step moves it on in its loop. -/
theorem receptionistStep_rank (h : receptionistStep NUMTABLES nGroups s = some s') :
    s.receptionist.rank + 11 * s.receptionistReqs < s'.receptionist.rank + 11 * s'.receptionistReqs := by
  cases hp : s.receptionist <;> simp only [Restaurant.receptionistStep, hp] at h <;>
    (try split at h) <;>
    simp only [Option.map_eq_some', down_eq_some, Option.some.injEq, reduceCtorEq, false_and,
      exists_const] at h
  all_goals obtain ⟨_, ⟨-, rfl⟩, rfl⟩ := h
  case provideTableOrWaitingRoom g =>
    rcases @provideTableOrWaitingRoom_receptionist NUMTABLES nGroups
      { s with sem := Function.update s.sem .mutex (s.sem .mutex - 1) } g with e | e | e <;>
      rw [e] <;> simp [hp, ReceptionistPc.rank]
  case receivePayment g =>
    obtain ⟨t, ⟨ng, e⟩ | e⟩ := @receivePayment_receptionist nGroups
      { s with sem := Function.update s.sem .mutex (s.sem .mutex - 1) } g <;>
      rw [e] <;> simp [hp, ReceptionistPc.rank]
  all_goals simp [hp, up, ReceptionistPc.rank] <;> omega

/-- A waiter's step moves it on in its loop, and leaves the chef alone. -/
theorem waiterStep_rank (h : waiterStep nGroups s = some s') :
    s'.chef = s.chef ∧ s'.chefOrders = s.chefOrders ∧
      s.waiter.rank + 11 * s.waiterReqs < s'.waiter.rank + 11 * s'.waiterReqs := by
  cases hp : s.waiter <;> simp only [Restaurant.waiterStep, hp] at h <;> (try split at h) <;>
    simp only [Option.map_eq_some', down_eq_some, Option.some.injEq, reduceCtorEq, false_and,
      exists_const] at h
  all_goals obtain ⟨_, ⟨-, rfl⟩, rfl⟩ := h
  all_goals simp [hp, up, WaiterPc.rank] <;> omega

/-- A chef's step moves it on in its loop, and leaves the waiter alone. -/
theorem chefStep_rank (h : chefStep nGroups s = some s') :
    s'.waiter = s.waiter ∧ s'.waiterReqs = s.waiterReqs ∧
      s.chef.rank + 8 * s.chefOrders < s'.chef.rank + 8 * s'.chefOrders := by
  cases hp : s.chef <;> simp only [Restaurant.chefStep, hp] at h <;> (try split at h) <;>
    simp only [Option.map_eq_some', down_eq_some, Option.some.injEq, reduceCtorEq, false_and,
      exists_const] at h
  all_goals obtain ⟨_, ⟨-, rfl⟩, rfl⟩ := h
  all_goals simp [hp, up, postWaiter, ChefPc.rank] <;> omega

/-- A group's step moves it one point on and leaves the loops alone. -/
theorem groupStep_progress {g : Nat} (hg : g < nGroups) (h : groupStep s g = some s') :
    progress nGroups s < progress nGroups s' := by
  obtain ⟨-, -, -, hR, hRq, hW, hWq, hC, hCo, -, -, -, -, -, -, -, hG, hidx, -⟩ := groupStep_frame h
  have hsum : ∑ i ∈ Finset.range nGroups, (s'.group i).idx =
      ∑ i ∈ Finset.range nGroups, (s.group i).idx + 1 := by
    have e : ∀ i ∈ Finset.range nGroups,
        (s'.group i).idx = (s.group i).idx + if g = i then 1 else 0 := by
      intro i _
      by_cases e : g = i
      · subst e; simp [hidx]
      · rw [hG, Function.update_noteq (Ne.symm e)]; simp [e]
    rw [Finset.sum_congr rfl e, Finset.sum_add_distrib, Finset.sum_ite_eq]
    simp [hg]
  unfold progress
  rw [hsum, hR, hRq, hW, hWq, hC, hCo]
  omega

/-- **Every step moves on.** -/
theorem progress_lt {a : Actor} (h : step NUMTABLES nGroups s a = some s') :
    progress nGroups s < progress nGroups s' := by
  cases a with
  | group g =>
    simp only [step] at h
    split at h
    · exact groupStep_progress (by assumption) h
    · cases h
  | receptionist =>
    obtain ⟨hG, hW, hWq, hC, hCo, -⟩ := receptionistStep_frame h
    have := receptionistStep_rank h
    unfold progress
    rw [hG, hW, hWq, hC, hCo]
    omega
  | waiter =>
    obtain ⟨hG, -, -, -, -, -, -, -, hR, hRq, -⟩ := waiterStep_frame h
    obtain ⟨hC, hCo, hlt⟩ := waiterStep_rank h
    unfold progress
    rw [hG, hR, hRq, hC, hCo]
    omega
  | chef =>
    obtain ⟨hG, -, -, -, -, -, -, -, hR, hRq, -⟩ := chefStep_frame h
    obtain ⟨hW, hWq, hlt⟩ := chefStep_rank h
    unfold progress
    rw [hG, hR, hRq, hW, hWq]
    omega

/-- **`progress` is bounded**: every loop has a bounded number of rounds
and every group a finite program. -/
theorem progress_le (h : Reachable NUMTABLES nGroups s) : progress nGroups s ≤ 74 * nGroups + 27 := by
  obtain ⟨-, hS, hK⟩ := kitchen_reachable h
  have hsum : ∑ g ∈ Finset.range nGroups, (s.group g).idx ≤ 22 * nGroups :=
    calc _ ≤ ∑ _g ∈ Finset.range nGroups, 22 := Finset.sum_le_sum fun g _ => GroupPc.idx_le _
      _ = 22 * nGroups := by simp [mul_comm]
  have := hS.bounded.1
  have := hK.bounded.1
  have := hK.chefBounded.1
  have := s.receptionist.rank_le
  have := s.waiter.rank_le
  have := s.chef.rank_le
  unfold progress
  omega

theorem progress_run {as : List Actor} (h : run NUMTABLES nGroups s as = some s') :
    progress nGroups s + as.length ≤ progress nGroups s' := by
  induction as generalizing s with
  | nil =>
    simp only [run, Option.some.injEq] at h
    subst h
    simp
  | cons a as ih =>
    simp only [run, Option.bind_eq_some] at h
    obtain ⟨t, ht, h⟩ := h
    have := progress_lt ht
    have := ih h
    simp only [List.length_cons]
    omega

/-- **Every run is finite**: no schedule from a reachable state is longer
than `74 * nGroups + 27` steps. -/
theorem run_length_le {as : List Actor} (hs : Reachable NUMTABLES nGroups s)
    (h : run NUMTABLES nGroups s as = some s') : as.length ≤ 74 * nGroups + 27 := by
  have := progress_run h
  have := progress_le (hs.run h)
  omega

/-- Nobody can move in the final state. -/
theorem Final.stuck (h : Final nGroups s) : Stuck NUMTABLES nGroups s := by
  obtain ⟨hg, hR, hRq, hW, hWq, hC, hCo⟩ := h
  intro a
  cases a with
  | group g =>
    simp only [step]
    split
    · obtain ⟨t, e⟩ := (hg g (by assumption)).2
      simp [groupStep, e]
    · rfl
  | receptionist => simp [step, receptionistStep, hR, hRq, Nat.mul_comm]
  | waiter => simp [step, waiterStep, hW, hWq, Nat.mul_comm]
  | chef => simp [step, chefStep, hC, hCo]

/-! ## Completion -/

/-- **Some run gets stuck**: from every reachable state, running any
process that can move leads, within the bound on `progress`, to a state
where nobody can. -/
theorem exists_stuck_run (h : Reachable NUMTABLES nGroups s) :
    ∃ as s', run NUMTABLES nGroups s as = some s' ∧ Stuck NUMTABLES nGroups s' := by
  obtain ⟨k, hk⟩ : ∃ k, k = 74 * nGroups + 27 - progress nGroups s := ⟨_, rfl⟩
  induction k using Nat.strong_induction_on generalizing s with
  | _ k ih =>
    by_cases hst : Stuck NUMTABLES nGroups s
    · exact ⟨[], s, rfl, hst⟩
    · obtain ⟨a, ha⟩ := not_forall.1 hst
      obtain ⟨s₁, e⟩ := Option.ne_none_iff_exists'.1 ha
      have := progress_lt e
      have := progress_le (h.step a e)
      obtain ⟨as, s', hr, hs'⟩ := ih _ (by omega) (h.step a e) rfl
      exact ⟨a :: as, s', by simp [run, e, hr], hs'⟩

/-- **The evening can always be finished.** With at least one table and
at most two tables or two groups, from every reachable state some
schedule runs every process to its end. -/
theorem completion_reachable (hT1 : 1 ≤ NUMTABLES) (hsmall : NUMTABLES ≤ 2 ∨ nGroups ≤ 2)
    (h : Reachable NUMTABLES nGroups s) :
    ∃ as s', run NUMTABLES nGroups s as = some s' ∧ Final nGroups s' := by
  obtain ⟨as, s', hr, hst⟩ := exists_stuck_run h
  obtain ⟨hT, hS, hK⟩ := kitchen_reachable (h.run hr)
  exact ⟨as, s', hr, hst.final hT hS hK hsmall hT1⟩

theorem completion_reachable_initState :
    ∃ as s', run 1 2 initState as = some s' ∧ Final 2 s' :=
  completion_reachable (by decide) (.inl (by decide)) (.init initial_initState)

/-- **The stuck states**, for any number of tables and groups. A
reachable state where nobody can move is the final one, or the kitchen's
deadlock: the waiter waits in `informChef` for `orderReceived`, the chef
waits in `processOrder` for `waiterRequestPossible`, a request holds that
permit in the waiter's mailbox, and there are at least three tables and
three groups. -/
theorem stuck_final_or_kitchen_deadlock (hT1 : 1 ≤ NUMTABLES)
    (h : Reachable NUMTABLES nGroups s) (hst : Stuck NUMTABLES nGroups s) :
    Final nGroups s ∨
      (∃ g₀ g₁, s.chef = .processOrder g₀ ∧ s.waiter = .informChefWait g₁ ∧
        s.sem .waiterRequestPossible = 0 ∧ s.sem .orderReceived = 0 ∧ 0 < s.sem .waiterRequest) ∧
      3 ≤ NUMTABLES ∧ 3 ≤ nGroups := by
  obtain ⟨hT, hS, hK⟩ := kitchen_reachable h
  by_cases hwr : s.sem .waiterRequest = 0
  · exact .inl (hst.final_of_idle hT hS hK hwr hT1)
  obtain ⟨g₁, hW, h0⟩ := hst.informChefWait_of_pending hT hS hK hwr
  obtain ⟨⟨g₀, hC, hp⟩, h3⟩ := hst.three_seated hT hS hK hW (Nat.pos_of_ne_zero hwr)
  exact .inr ⟨⟨g₀, g₁, hC, hW, hp, h0, Nat.pos_of_ne_zero hwr⟩, h3⟩

set_option maxRecDepth 10000 in
theorem stuck_final_or_kitchen_deadlock_dinnerState :
    Stuck 1 2 dinnerState ∧
      (Final 2 dinnerState ∨
        (∃ g₀ g₁, dinnerState.chef = .processOrder g₀ ∧ dinnerState.waiter = .informChefWait g₁ ∧
          dinnerState.sem .waiterRequestPossible = 0 ∧ dinnerState.sem .orderReceived = 0 ∧
          0 < dinnerState.sem .waiterRequest) ∧ 3 ≤ 1 ∧ 3 ≤ 2) :=
  have hst : Stuck 1 2 dinnerState := final_dinnerState.stuck
  ⟨hst, stuck_final_or_kitchen_deadlock (by decide) reachable_dinnerState hst⟩

/-- **A finished evening leaves the restaurant as it found it.** In a
reachable final state every semaphore is back at its initial value
(`mutex` and the two request permits at one, every signal at zero, for
every table index), nobody is queued, and every group is `DONE` with
no table. -/
theorem final_clean (h : Reachable NUMTABLES nGroups s) (hf : Final nGroups s) :
    (∀ x, (∀ g, x = .waitForTable g → g < nGroups) → s.sem x = initialSem x) ∧
      s.groupsWaiting = 0 ∧
      ∀ g, g < nGroups → s.groupRecord g = .DONE ∧ s.assignedTable g = -1 := by
  obtain ⟨hT, hS, hK⟩ := kitchen_reachable h
  have hst : Stuck NUMTABLES nGroups s := hf.stuck
  obtain ⟨hex, hR, -, hW, hWq, hC, -⟩ := hf
  have hidx : ∀ g, g < nGroups → (s.group g).idx = 22 := fun g hg => by
    obtain ⟨t, e⟩ := (hex g hg).2; rw [e]; rfl
  have hdone : ∀ g, g < nGroups → s.groupRecord g = .DONE := fun g hg =>
    hst.done_of_billed hT hS hg (by rw [hidx g hg]; decide)
  have hwr : s.sem .waiterRequest = 0 := by
    have := hK.pending_eq_zero_of_done hW hWq.ge; unfold waiterPending at this; omega
  obtain ⟨-, hrp, hRRP⟩ := hst.receptionist_idle hT hS
  have hord := hT.order
  simp only [hW, hC, WaiterPc.awaitsChef, ChefPc.handshake, Bool.toNat_false] at hord
  refine ⟨fun x hx => ?_, ?_, fun g hg => ⟨hdone g hg, ?_⟩⟩
  · cases x with
    | mutex => exact hst.mutex_eq_one hT hS
    | receptionistReq => unfold receptionistPending at hrp; simp only [initialSem]; omega
    | receptionistRequestPossible => exact hRRP
    | waiterRequest => exact hwr
    | waiterRequestPossible => exact (hst.kitchen_idle hT hS hK hwr).2.2.2.2
    | waitOrder | orderReceived => simp only [initialSem]; omega
    | waitForTable g =>
      have hg := hx g rfl
      exact ((hS.phase g hg).leaving (by rw [hidx g hg]; decide)).1
    | requestReceived t =>
      rw [hK.requestReceived t]
      exact countGroups_eq_zero.2 fun g hg => by simp [hidx g hg]
    | foodArrived t =>
      rw [hK.foodArrived t]
      exact countGroups_eq_zero.2 fun g hg => by simp [hidx g hg]
    | tableDone t =>
      have htd := hS.tableDone t
      rw [countGroups_congr
        (p := fun g => decide (s.groupRecord g = .DONE ∧ (s.group g).table? = some t))
        fun g hg => by simp [hidx g hg, hdone g hg]] at htd
      simp only [initialSem]
      omega
  · have := hS.groupsWaiting
    rw [hR, waitingGroups, countGroups_eq_zero.2 fun g hg => by simp [hdone g hg]] at this
    simpa [ReceptionistPc.handing] using this
  · obtain ⟨-, t, -, -, -, ⟨e, -⟩ | ⟨-, e⟩⟩ := (hS.phase g hg).leaving (by rw [hidx g hg]; decide)
    · rw [hdone g hg] at e; cases e
    · exact e

theorem final_clean_dinnerState :
    (∀ x, (∀ g, x = .waitForTable g → g < 2) → dinnerState.sem x = initialSem x) ∧
      dinnerState.groupsWaiting = 0 ∧
      ∀ g, g < 2 → dinnerState.groupRecord g = .DONE ∧ dinnerState.assignedTable g = -1 :=
  final_clean reachable_dinnerState final_dinnerState

end Restaurant
