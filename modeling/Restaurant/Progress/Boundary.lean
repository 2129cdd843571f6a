import Restaurant.Progress.Termination
/-!
# Restaurant — where deadlock freedom ends

With at most two tables or two groups every run that cannot go on ends
in the final state (`Stuck.final`). With three tables and three groups a
schedule reaches the kitchen's deadlock (`deadlock_three_tables`), and
this file carries it to every restaurant with at least three tables and
three groups.

A schedule of the three-table, three-group restaurant runs unchanged in
a larger one as long as it names none of the extra groups, no loop is at
its end for three groups, and each seating finds a free table among the
first three (`Fits`). The extra groups are still on their way, so the
receptionist's scans pass over them (`scanWaiting_eq_three`,
`scanTables_eq_three`), and a fourth table is looked at only when the
first three are taken. Step by step (`step_eq_of_fits`) and along the
schedule (`run_eq_of_fitsAlong`) the larger restaurant goes through the
same states. Once the waiter waits for the chef's acknowledgement and
the chef for the waiter's request permit, no process can release either
(`KitchenBlocked.step`); every run from there gets stuck
(`exists_stuck_run`) in a state that is not final. So the protocol is
deadlock-free exactly with at most two tables or two groups
(`deadlock_free`).
-/

namespace Restaurant

open State

variable {NUMTABLES nGroups : Nat} {s s' : State}

/-! ## Three tables, three groups -/

/-- Three groups at three tables: groups 0 and 1 order in turn; the chef
takes group 0's order and the waiter passes on group 1's, while group 2's
order fills the waiter's mailbox. -/
def deadlockSchedule : List Actor :=
  .replicate 4 (.group 0) ++ .replicate 9 .receptionist ++ .replicate 4 (.group 1) ++
    .replicate 9 .receptionist ++ .replicate 4 (.group 2) ++ .replicate 9 .receptionist ++
    .replicate 5 (.group 0) ++ .replicate 10 .waiter ++ .replicate 4 .chef ++
    .replicate 3 .waiter ++ .replicate 5 (.group 1) ++ .replicate 8 .waiter ++
    .replicate 5 (.group 2) ++ .replicate 3 (.group 0) ++ .replicate 3 (.group 1) ++
    .replicate 2 .receptionist

def deadlockState : State := (run 3 3 initState deadlockSchedule).getD initState

set_option maxRecDepth 10000 in
/-- **With three tables and three groups the protocol deadlocks**: the
waiter waits for the chef's acknowledgement, the chef for the waiter's
request permit, and group 2's order holds it. -/
theorem deadlock_three_tables :
    Reachable 3 3 deadlockState ∧ Stuck 3 3 deadlockState ∧ ¬ Final 3 deadlockState := by
  refine ⟨Reachable.run_getD (.init initial_initState) (by decide), fun a => ?_, fun hf => ?_⟩
  · cases a with
    | group g =>
      simp only [step]
      split
      · obtain rfl | rfl | rfl : g = 0 ∨ g = 1 ∨ g = 2 := by omega
        all_goals exact Option.isNone_iff_eq_none.1 (by decide)
      · rfl
    | _ => exact Option.isNone_iff_eq_none.1 (by decide)
  · have := hf.2.2.2.1
    revert this
    decide

/-! ## Scans past the first three -/

section Scans

variable {assignedTable : Nat → Int} {groupRecord : Nat → GroupRecord}

/-- `decideNextGroup`'s loop finds nothing among groups nobody has
queued. -/
theorem scanWaiting_add {k m g : Nat}
    (h : ∀ i, g + k ≤ i → i < g + k + m → groupRecord i ≠ .WAIT) :
    scanWaiting groupRecord (k + m) g = scanWaiting groupRecord k g := by
  induction k generalizing g with
  | zero =>
    rw [Nat.zero_add]
    rcases @scanWaiting_spec groupRecord m g with ⟨e, -⟩ | ⟨i, -, h1, h2, hw, -⟩
    · exact e
    · exact absurd hw (h i (by omega) (by omega))
  | succ k ih =>
    rw [show k + 1 + m = k + m + 1 by omega]
    simp only [scanWaiting]
    rw [ih fun i h1 h2 => h i (by omega) (by omega)]

/-- `decideTableOrWait`'s outer loop stops at the first free table: the
tables after it do not matter. -/
theorem scanTables_add {n k m table : Nat} (h : scanTables assignedTable n k table ≠ -1) :
    scanTables assignedTable n (k + m) table = scanTables assignedTable n k table := by
  induction k generalizing table with
  | zero => exact absurd rfl h
  | succ k ih =>
    rw [show k + 1 + m = k + m + 1 by omega]
    simp only [scanTables] at h ⊢
    by_cases hc : scanGroups assignedTable table n 0 ≠ n
    · simp only [if_pos hc] at h ⊢
      exact ih h
    · simp only [if_neg hc]

/-- The outer loop reads the inner loop's verdict on each table only. -/
theorem scanTables_congr {n n' k table : Nat}
    (h : ∀ t : Nat, scanGroups assignedTable t n 0 ≠ n ↔ scanGroups assignedTable t n' 0 ≠ n') :
    scanTables assignedTable n k table = scanTables assignedTable n' k table := by
  induction k generalizing table with
  | zero => rfl
  | succ k ih => simp only [scanTables, h, ih]

/-- With the groups from `3` on unseated, the inner loop finds somebody
at a table among `n ≥ 3` groups exactly when it does among three. -/
theorem scanGroups_ne_iff_three {n : Nat} (hn : 3 ≤ n)
    (hrec : ∀ i, 3 ≤ i → i < n → assignedTable i = -1) (t : Nat) :
    scanGroups assignedTable t n 0 ≠ n ↔ scanGroups assignedTable t 3 0 ≠ 3 := by
  rw [scanGroups_ne_iff, scanGroups_ne_iff]
  refine ⟨fun ⟨i, hi, e⟩ => ⟨i, ?_, e⟩, fun ⟨i, hi, e⟩ => ⟨i, by omega, e⟩⟩
  by_contra h3
  have := hrec i (by omega) hi
  omega

/-- **The lowest free table of a larger restaurant** is the lowest free
table among the first three, when there is one and the extra groups are
unseated. -/
theorem scanTables_eq_three {n N : Nat} (hN : 3 ≤ N) (hn : 3 ≤ n)
    (hrec : ∀ i, 3 ≤ i → i < n → assignedTable i = -1)
    (hfree : scanTables assignedTable 3 3 0 ≠ -1) :
    scanTables assignedTable n N 0 = scanTables assignedTable 3 3 0 := by
  rw [scanTables_congr (scanGroups_ne_iff_three hn hrec), ← Nat.add_sub_cancel' hN,
    scanTables_add hfree]

/-- **The lowest queued group of a larger restaurant** is the lowest
queued group among the first three, when the extra groups are not
queued. -/
theorem scanWaiting_eq_three {n : Nat} (hn : 3 ≤ n)
    (hrec : ∀ i, 3 ≤ i → i < n → groupRecord i ≠ .WAIT) :
    scanWaiting groupRecord n 0 = scanWaiting groupRecord 3 0 := by
  rw [← Nat.add_sub_cancel' hn]
  exact scanWaiting_add fun i h1 h2 => hrec i (by omega) (by omega)

end Scans

/-- The seating call reads the number of tables and groups only through
its scan. -/
theorem provideTableOrWaitingRoom_eq_of_scan {N n N' n' g : Nat}
    (h : scanTables s.assignedTable n N 0 = scanTables s.assignedTable n' N' 0) :
    provideTableOrWaitingRoom N n s g = provideTableOrWaitingRoom N' n' s g := by
  simp only [provideTableOrWaitingRoom, decideTableOrWait, h]

/-- The payment call reads the number of groups only through its scan. -/
theorem receivePayment_eq_of_scan {n n' g : Nat}
    (h : scanWaiting (Function.update s.groupRecord g .DONE) n 0 =
      scanWaiting (Function.update s.groupRecord g .DONE) n' 0) :
    receivePayment n s g = receivePayment n' s g := by
  simp only [receivePayment, decideNextGroup, h]

/-! ## The same schedule in a larger restaurant -/

/-- A step of the three-table, three-group restaurant that is a step of
every larger one: it is taken by one of the first three groups, the
receptionist, the waiter or the chef; no loop is at its end for three
groups; and a seating finds a free table among the first three. -/
def Fits (s : State) : Actor → Bool
  | .group g => decide (g < 3)
  | .receptionist => decide (s.receptionistReqs < 6) &&
      (match s.receptionist with
       | .provideTableOrWaitingRoom _ => scanTables s.assignedTable 3 3 0 != -1
       | _ => true)
  | .waiter => decide (s.waiterReqs < 6)
  | .chef => decide (s.chefOrders < 3)

/-- Every step of a schedule fits, and the three-table, three-group
restaurant runs it to its end. -/
def FitsAlong : State → List Actor → Bool
  | _, [] => true
  | s, a :: as => Fits s a &&
      (match step 3 3 s a with
       | some s' => FitsAlong s' as
       | none => false)

theorem FitsAlong.run_isSome {as : List Actor} (h : FitsAlong s as = true) :
    (run 3 3 s as).isSome := by
  induction as generalizing s with
  | nil => rfl
  | cons a as ih =>
    simp only [FitsAlong, Bool.and_eq_true] at h
    cases e : step 3 3 s a with
    | none => rw [e] at h; cases h.2
    | some s' =>
      rw [e] at h
      simpa [run, e] using ih h.2

/-- A process other than group `g` leaves group `g` where it is. -/
theorem step_group_of_ne {a : Actor} (h : step NUMTABLES nGroups s a = some s') {g : Nat}
    (ha : a ≠ .group g) : s'.group g = s.group g := by
  cases a with
  | group g' =>
    simp only [step] at h
    split at h
    · rw [groupStep_group h, Function.update_noteq fun e => ha (congrArg Actor.group e.symm)]
    · cases h
  | receptionist => rw [(receptionistStep_frame h).1]
  | waiter => rw [(waiterStep_frame h).1]
  | chef => rw [(chefStep_frame h).1]

section Larger

variable (hN : 3 ≤ NUMTABLES) (hn : 3 ≤ nGroups)
include hn

theorem waiterStep_eq_three (hf : s.waiterReqs < 6) : waiterStep nGroups s = waiterStep 3 s := by
  cases hw : s.waiter <;> simp only [waiterStep, hw]
  rw [if_pos (by omega), if_pos (by omega)]

theorem chefStep_eq_three (hf : s.chefOrders < 3) : chefStep nGroups s = chefStep 3 s := by
  cases hc : s.chef <;> simp only [chefStep, hc]
  rw [if_pos (by omega), if_pos (by omega)]

include hN

/-- The receptionist's step, when it fits, is the same in every larger
restaurant whose extra groups have not arrived. -/
theorem receptionistStep_eq_three
    (hrec : ∀ g, 3 ≤ g → g < nGroups → s.groupRecord g = .TOARRIVE ∧ s.assignedTable g = -1)
    (hf : Fits s .receptionist = true) :
    receptionistStep NUMTABLES nGroups s = receptionistStep 3 3 s := by
  simp only [Fits, Bool.and_eq_true, decide_eq_true_eq] at hf
  obtain ⟨hreq, hscan⟩ := hf
  cases hp : s.receptionist <;> simp only [receptionistStep, hp]
  case waitForGroup => rw [if_pos (by omega), if_pos (by omega)]
  case provideTableOrWaitingRoom g =>
    simp only [hp, bne_iff_ne, ne_eq] at hscan
    have e := scanTables_eq_three hN hn (fun i h3 hi => (hrec i h3 hi).2) hscan
    cases hd : s.down .mutex with
    | none => rfl
    | some t =>
      obtain ⟨-, rfl⟩ := down_eq_some.1 hd
      exact congrArg some (provideTableOrWaitingRoom_eq_of_scan e)
  case receivePayment g =>
    have e : scanWaiting (Function.update s.groupRecord g .DONE) nGroups 0 =
        scanWaiting (Function.update s.groupRecord g .DONE) 3 0 := by
      refine scanWaiting_eq_three hn fun i h3 hi => ?_
      by_cases hig : i = g
      · subst hig; simp
      · rw [Function.update_noteq hig, (hrec i h3 hi).1]; decide
    cases hd : s.down .mutex with
    | none => rfl
    | some t =>
      obtain ⟨-, rfl⟩ := down_eq_some.1 hd
      exact congrArg some (receivePayment_eq_of_scan e)

/-- **A fitting step is a step of every larger restaurant**, to the same
state, while the extra groups have not arrived. -/
theorem step_eq_of_fits
    (hrec : ∀ g, 3 ≤ g → g < nGroups → s.groupRecord g = .TOARRIVE ∧ s.assignedTable g = -1)
    {a : Actor} (hf : Fits s a = true) : step NUMTABLES nGroups s a = step 3 3 s a := by
  cases a with
  | group g =>
    simp only [Fits, decide_eq_true_eq] at hf
    simp only [step, if_pos hf, if_pos (show g < nGroups by omega)]
  | receptionist => exact receptionistStep_eq_three hN hn hrec hf
  | waiter => exact waiterStep_eq_three hn (by simpa [Fits] using hf)
  | chef => exact chefStep_eq_three hn (by simpa [Fits] using hf)

/-- **A fitting schedule runs the same in every larger restaurant**, from
a reachable state whose extra groups are still on their way. -/
theorem run_eq_of_fitsAlong {as : List Actor} (hs : Reachable NUMTABLES nGroups s)
    (hgo : ∀ g, 3 ≤ g → g < nGroups → s.group g = .goToRestaurant)
    (hf : FitsAlong s as = true) : run NUMTABLES nGroups s as = run 3 3 s as := by
  induction as generalizing s with
  | nil => rfl
  | cons a as ih =>
    simp only [FitsAlong, Bool.and_eq_true] at hf
    obtain ⟨ha, hf⟩ := hf
    cases e : step 3 3 s a with
    | none => rw [e] at hf; cases hf
    | some s₁ =>
      rw [e] at hf
      have hrec : ∀ g, 3 ≤ g → g < nGroups →
          s.groupRecord g = .TOARRIVE ∧ s.assignedTable g = -1 := fun g h3 hg => by
        obtain ⟨e1, e2, -⟩ :=
          ((seating_reachable hs).2.phase g hg).arriving (by rw [hgo g h3 hg]; decide)
        exact ⟨e1, e2⟩
      have e' : step NUMTABLES nGroups s a = some s₁ := (step_eq_of_fits hN hn hrec ha).trans e
      have hgo' : ∀ g, 3 ≤ g → g < nGroups → s₁.group g = .goToRestaurant := fun g h3 hg => by
        refine (step_group_of_ne e' fun hag => ?_).trans (hgo g h3 hg)
        subst hag
        simp only [Fits, decide_eq_true_eq] at ha
        omega
      simp only [run, e, e', Option.some_bind]
      exact ih (hs.step a e') hgo' hf

set_option maxRecDepth 10000 in
/-- **The three-table deadlock is reached in every larger restaurant.** -/
theorem reachable_deadlockState : Reachable NUMTABLES nGroups deadlockState := by
  have hf : FitsAlong initState deadlockSchedule = true := by decide
  have e := run_eq_of_fitsAlong hN hn (.init initial_initState) (fun _ _ _ => rfl) hf
  have hR : Reachable NUMTABLES nGroups ((run NUMTABLES nGroups initState deadlockSchedule).getD initState) :=
    Reachable.run_getD (.init initial_initState) (by rw [e]; exact FitsAlong.run_isSome hf)
  rwa [e] at hR

end Larger

/-! ## The kitchen's trap -/

/-- The waiter waits in `informChef` for the chef's `orderReceived`, and
the chef in `processOrder` for the waiter's request permit. -/
def KitchenBlocked (s : State) : Prop :=
  (∃ g, s.chef = .processOrder g) ∧ (∃ g, s.waiter = .informChefWait g) ∧
    s.sem .waiterRequestPossible = 0 ∧ s.sem .orderReceived = 0

/-- A group holding `mutex` next gives back `mutex` or signals a
mailbox. -/
theorem GroupPc.semOp_of_holdsMutex {p : GroupPc} {g : Nat} (h : p.holdsMutex = true) :
    p.semOp g = .mutex ∨ p.semOp g = .receptionistReq ∨ p.semOp g = .waiterRequest := by
  cases p <;> simp_all [GroupPc.holdsMutex, GroupPc.semOp]

/-- A group's step raises no counter at zero but `mutex` and the two
mailbox signals. -/
theorem groupStep_sem_eq_zero {g : Nat} (h : groupStep s g = some s') {x : Sem}
    (hx : s.sem x = 0) (hxm : x ≠ .mutex) (hxr : x ≠ .receptionistReq)
    (hxw : x ≠ .waiterRequest) : s'.sem x = 0 := by
  obtain ⟨-, -, -, -, -, -, -, -, -, -, -, -, -, -, -, -, -, -, -, hsem, hpos⟩ := groupStep_frame h
  rw [hsem]
  by_cases e : x = (s.group g).semOp g
  · cases hm : (s.group g).holdsMutex
    · have := hpos hm
      rw [← e] at this
      omega
    · rcases GroupPc.semOp_of_holdsMutex (g := g) hm with e' | e' | e' <;>
        exact absurd (e.trans e') ‹_›
  · rw [Function.update_noteq e, hx]

/-- **Nobody can release the waiter and the chef from each other**: every
step keeps them blocked. -/
theorem KitchenBlocked.step (hb : KitchenBlocked s) {a : Actor}
    (h : step NUMTABLES nGroups s a = some s') : KitchenBlocked s' := by
  obtain ⟨⟨g₀, hC⟩, ⟨g₁, hW⟩, hp, ho⟩ := hb
  cases a with
  | group g =>
    simp only [Restaurant.step] at h
    split at h
    · obtain ⟨-, -, -, -, -, hW', -, hC', -⟩ := groupStep_frame h
      exact ⟨⟨g₀, hC' ▸ hC⟩, ⟨g₁, hW' ▸ hW⟩, groupStep_sem_eq_zero h hp (by simp) (by simp) (by simp),
        groupStep_sem_eq_zero h ho (by simp) (by simp) (by simp)⟩
    · cases h
  | receptionist =>
    obtain ⟨-, hW', -, hC', -, -, -, -, -, -, -, -, -, -, -, -, -, hp', ho'⟩ :=
      receptionistStep_frame h
    exact ⟨⟨g₀, hC' ▸ hC⟩, ⟨g₁, hW' ▸ hW⟩, hp' ▸ hp, ho' ▸ ho⟩
  | waiter => simp [Restaurant.step, waiterStep, hW, down, ho] at h
  | chef => simp [Restaurant.step, chefStep, hC, down, hp] at h

theorem KitchenBlocked.run (hb : KitchenBlocked s) {as : List Actor}
    (h : run NUMTABLES nGroups s as = some s') : KitchenBlocked s' := by
  induction as generalizing s with
  | nil =>
    simp only [Restaurant.run, Option.some.injEq] at h
    exact h ▸ hb
  | cons a as ih =>
    simp only [Restaurant.run, Option.bind_eq_some] at h
    obtain ⟨t, ht, h⟩ := h
    exact ih (hb.step ht) h

set_option maxRecDepth 10000 in
/-- **Every restaurant with three tables and three groups reaches a
deadlock**: a stuck state that is not final, in which the waiter and the
chef wait on each other and a request holds the waiter's permit. -/
theorem kitchen_deadlock (hN : 3 ≤ NUMTABLES) (hn : 3 ≤ nGroups) :
    ∃ s, Reachable NUMTABLES nGroups s ∧ Stuck NUMTABLES nGroups s ∧ ¬ Final nGroups s ∧
      KitchenBlocked s ∧ 0 < s.sem .waiterRequest := by
  have hR := reachable_deadlockState hN hn
  have hb : KitchenBlocked deadlockState := ⟨⟨0, by decide⟩, ⟨1, by decide⟩, by decide, by decide⟩
  obtain ⟨as, s', hr, hst⟩ := exists_stuck_run hR
  have hb' := hb.run hr
  have hnf : ¬ Final nGroups s' := fun hf => by
    obtain ⟨-, ⟨g, hW⟩, -⟩ := hb'
    rw [hf.2.2.2.1] at hW
    cases hW
  obtain ⟨hT, hS, hK⟩ := kitchen_reachable (hR.run hr)
  exact ⟨s', hR.run hr, hst, hnf, hb',
    Nat.pos_of_ne_zero fun hwr => hnf (hst.final_of_idle hT hS hK hwr (by omega))⟩

/-! ## Deadlock freedom -/

/-- **Deadlock freedom holds exactly with at most two tables or two
groups.** With at least one table: every run from a reachable state is
finite; with at most two tables or two groups, every reachable state is
final or lets some process move, and every run that cannot go on ends in
the final state; with at least three of each, some reachable state is
stuck and not final, the waiter and the chef waiting on each other. -/
theorem deadlock_free (hT1 : 1 ≤ NUMTABLES) :
    (∀ s, Reachable NUMTABLES nGroups s → ∀ as s', run NUMTABLES nGroups s as = some s' →
      as.length ≤ 74 * nGroups + 27) ∧
    (NUMTABLES ≤ 2 ∨ nGroups ≤ 2 → ∀ s, Reachable NUMTABLES nGroups s →
      (Final nGroups s ∨ ∃ a s', step NUMTABLES nGroups s a = some s') ∧
      ∀ as s', run NUMTABLES nGroups s as = some s' → Stuck NUMTABLES nGroups s' →
        Final nGroups s') ∧
    (3 ≤ NUMTABLES → 3 ≤ nGroups → ∃ s, Reachable NUMTABLES nGroups s ∧
      Stuck NUMTABLES nGroups s ∧ ¬ Final nGroups s ∧ KitchenBlocked s ∧
      0 < s.sem .waiterRequest) := by
  refine ⟨fun s h as s' hr => run_length_le h hr, fun hsmall s h => ?_, kitchen_deadlock⟩
  have final : ∀ {s}, Reachable NUMTABLES nGroups s → Stuck NUMTABLES nGroups s →
      Final nGroups s := fun hs hst =>
    let ⟨hT, hS, hK⟩ := kitchen_reachable hs
    hst.final hT hS hK hsmall hT1
  refine ⟨?_, fun as s' hr hst => final (h.run hr) hst⟩
  by_cases hst : Stuck NUMTABLES nGroups s
  · exact .inl (final h hst)
  · obtain ⟨a, ha⟩ := not_forall.1 hst
    obtain ⟨s', e⟩ := Option.ne_none_iff_exists'.1 ha
    exact .inr ⟨a, s', e⟩

theorem deadlock_free_initState :
    (∀ as s', run 1 2 initState as = some s' → as.length ≤ 74 * 2 + 27) ∧
    ((Final 2 initState ∨ ∃ a s', step 1 2 initState a = some s') ∧
      ∀ as s', run 1 2 initState as = some s' → Stuck 1 2 s' → Final 2 s') ∧
    ∃ s, Reachable 3 3 s ∧ Stuck 3 3 s ∧ ¬ Final 3 s ∧ KitchenBlocked s ∧
      0 < s.sem .waiterRequest :=
  ⟨(deadlock_free (by decide)).1 initState (.init initial_initState),
    (deadlock_free (by decide)).2.1 (.inl (by decide)) initState (.init initial_initState),
    (deadlock_free (by decide)).2.2 (by decide) (by decide)⟩

end Restaurant
