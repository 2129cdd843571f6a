import Restaurant.State
/-!
# Restaurant — the receptionist (`semSharedMemReceptionist.c`)

The receptionist loops `2 * nGroups` times over `waitForGroup`, then
`provideTableOrWaitingRoom` for a `TABLEREQ` or `receivePayment` for a
`BILLREQ`. Its two scans are kept as loops: `decideTableOrWait` tries
the tables in order and, for each, runs through the groups until one
sits there (`scanGroups`, whose stopping index is compared with
`nGroups` exactly as the code does); `decideNextGroup` takes the
lowest-numbered waiting group. `NUMTABLES` comes from a header that is
not part of the repository, so it is a parameter throughout.
-/

namespace Restaurant

open State

/-- The inner loop of `decideTableOrWait`, from `group` on with `k`
groups left: where it stops, which is past the last group when nobody
sits at `table`. -/
def scanGroups (assignedTable : Nat → Int) (table : Int) : Nat → Nat → Nat
  | 0, group => group
  | k + 1, group =>
      if assignedTable group = table then group else scanGroups assignedTable table k (group + 1)

/-- The outer loop of `decideTableOrWait`, from `table` on with `k`
tables left: the first table the inner loop runs through, or `-1`. -/
def scanTables (assignedTable : Nat → Int) (nGroups : Nat) : Nat → Nat → Int
  | 0, _ => -1
  | k + 1, table =>
      if scanGroups assignedTable table nGroups 0 ≠ nGroups then
        scanTables assignedTable nGroups k (table + 1)
      else table

/-- `decideTableOrWait`: `none` when `assert (groupRecord[group_id] < 2)`
fails, else the table for the group, or `-1` to make it wait. -/
def decideTableOrWait (NUMTABLES nGroups : Nat) (groupRecord : Nat → GroupRecord)
    (assignedTable : Nat → Int) (group_id : Nat) : Option Int :=
  if (groupRecord group_id).code < 2 then some (scanTables assignedTable nGroups NUMTABLES 0)
  else none

/-- The loop of `decideNextGroup`, from `group_id` on with `k` groups
left. -/
def scanWaiting (groupRecord : Nat → GroupRecord) : Nat → Nat → Option Nat
  | 0, _ => none
  | k + 1, group_id =>
      if groupRecord group_id = .WAIT then some group_id
      else scanWaiting groupRecord k (group_id + 1)

/-- `decideNextGroup`: the lowest-numbered waiting group, `none` for
the code's `-1`. -/
def decideNextGroup (groupsWaiting : Int) (groupRecord : Nat → GroupRecord) (nGroups : Nat) :
    Option Nat :=
  if groupsWaiting ≤ 0 then none else scanWaiting groupRecord nGroups 0

/-! What the scans find. -/

section Scans

variable {assignedTable : Nat → Int} {groupRecord : Nat → GroupRecord} {nGroups : Nat}

/-- The inner loop runs past its last group exactly when nobody it looks
at sits at `table`. -/
theorem scanGroups_eq_add_iff {table : Int} {k group : Nat} :
    scanGroups assignedTable table k group = group + k ↔
      ∀ i, group ≤ i → i < group + k → assignedTable i ≠ table := by
  induction k generalizing group with
  | zero => simp only [scanGroups, Nat.add_zero, true_iff]; intro i h1 h2; omega
  | succ k ih =>
    simp only [scanGroups]
    split_ifs with h
    · exact ⟨fun e => by omega, fun hall => absurd h (hall group (Nat.le_refl _) (by omega))⟩
    · rw [show group + (k + 1) = group + 1 + k by omega, ih]
      refine ⟨fun hall i h1 h2 => ?_, fun hall i h1 h2 => hall i (by omega) h2⟩
      rcases Nat.eq_or_lt_of_le h1 with rfl | h1
      · exact h
      · exact hall i h1 h2

/-- `decideTableOrWait`'s test: the inner loop stops early exactly when
some group sits at `table`. -/
theorem scanGroups_ne_iff {table : Int} :
    scanGroups assignedTable table nGroups 0 ≠ nGroups ↔ ∃ i, i < nGroups ∧ assignedTable i = table := by
  have := @scanGroups_eq_add_iff assignedTable table nGroups 0
  simp only [Nat.zero_add, Nat.zero_le, true_implies] at this
  rw [ne_eq, this]
  simp only [ne_eq, Classical.not_forall, Classical.not_imp, Decidable.not_not, exists_prop]

/-- **The outer loop finds the lowest free table**, or `-1` when every
table it looks at is taken. -/
theorem scanTables_spec (k table : Nat) :
    (scanTables assignedTable nGroups k table = -1 ∧
      ∀ t : Nat, table ≤ t → t < table + k → ∃ i, i < nGroups ∧ assignedTable i = t) ∨
    (∃ t : Nat, scanTables assignedTable nGroups k table = t ∧ table ≤ t ∧ t < table + k ∧
      (∀ i, i < nGroups → assignedTable i ≠ t) ∧
      ∀ t' : Nat, table ≤ t' → t' < t → ∃ i, i < nGroups ∧ assignedTable i = t') := by
  induction k generalizing table with
  | zero => exact .inl ⟨rfl, fun t h1 h2 => by omega⟩
  | succ k ih =>
    simp only [scanTables]
    split_ifs with h
    · obtain ⟨i, hi, e⟩ := scanGroups_ne_iff.1 h
      rcases ih (table + 1) with ⟨e', hall⟩ | ⟨t, e', h1, h2, hfree, hmin⟩
      · refine .inl ⟨e', fun t h1 h2 => ?_⟩
        rcases Nat.eq_or_lt_of_le h1 with rfl | h1
        · exact ⟨i, hi, e⟩
        · exact hall t h1 (by omega)
      · refine .inr ⟨t, e', by omega, by omega, hfree, fun t' h1' h2' => ?_⟩
        rcases Nat.eq_or_lt_of_le h1' with rfl | h1'
        · exact ⟨i, hi, e⟩
        · exact hmin t' h1' h2'
    · have hfree := scanGroups_eq_add_iff.1 (show scanGroups assignedTable table nGroups 0 = 0 + nGroups
        by simpa using h)
      exact .inr ⟨table, rfl, Nat.le_refl _, by omega, fun i hi => hfree i (Nat.zero_le _) (by omega),
        fun t' h1 h2 => by omega⟩

/-- **`decideNextGroup`'s loop finds the lowest waiting group**, or
nothing when no group it looks at waits. -/
theorem scanWaiting_spec (k group_id : Nat) :
    (scanWaiting groupRecord k group_id = none ∧
      ∀ i, group_id ≤ i → i < group_id + k → groupRecord i ≠ .WAIT) ∨
    (∃ i, scanWaiting groupRecord k group_id = some i ∧ group_id ≤ i ∧ i < group_id + k ∧
      groupRecord i = .WAIT ∧ ∀ i', group_id ≤ i' → i' < i → groupRecord i' ≠ .WAIT) := by
  induction k generalizing group_id with
  | zero => exact .inl ⟨rfl, fun i h1 h2 => by omega⟩
  | succ k ih =>
    simp only [scanWaiting]
    split_ifs with h
    · exact .inr ⟨group_id, rfl, Nat.le_refl _, by omega, h, fun i' h1 h2 => by omega⟩
    · rcases ih (group_id + 1) with ⟨e, hall⟩ | ⟨i, e, h1, h2, hw, hmin⟩
      · refine .inl ⟨e, fun i h1 h2 => ?_⟩
        rcases Nat.eq_or_lt_of_le h1 with rfl | h1
        · exact h
        · exact hall i h1 (by omega)
      · refine .inr ⟨i, e, by omega, by omega, hw, fun i' h1' h2' => ?_⟩
        rcases Nat.eq_or_lt_of_le h1' with rfl | h1'
        · exact h
        · exact hmin i' h1' h2'

/-- `decideNextGroup` only ever names a waiting group. -/
theorem decideNextGroup_wait {gw : Int} {ng : Nat}
    (h : decideNextGroup gw groupRecord nGroups = some ng) : ng < nGroups ∧ groupRecord ng = .WAIT := by
  unfold decideNextGroup at h
  split_ifs at h
  rcases @scanWaiting_spec groupRecord nGroups 0 with ⟨e, -⟩ | ⟨i, e, -, hi, hw, -⟩
  · rw [e] at h; cases h
  · rw [e] at h; cases h; exact ⟨by omega, hw⟩

end Scans

/-- The critical section of `provideTableOrWaitingRoom`, once `mutex`
is held. -/
def provideTableOrWaitingRoom (NUMTABLES nGroups : Nat) (s : State) (group_id : Nat) : State :=
  let s := { s with receptionistStat := .ASSIGNTABLE }
  match decideTableOrWait NUMTABLES nGroups s.groupRecord s.assignedTable group_id with
  | none => { s with receptionist := .aborted }
  | some table_id =>
      if table_id < 0 then
        { s with groupsWaiting := s.groupsWaiting + 1
                 groupRecord := Function.update s.groupRecord group_id .WAIT
                 receptionist := .provideTableLeave }
      else
        { s with groupRecord := Function.update s.groupRecord group_id .ATTABLE
                 assignedTable := Function.update s.assignedTable group_id table_id
                 receptionist := .provideTableSignal group_id }

/-- The critical section of `receivePayment` up to its `semUp` of the
next group's `waitForTable`, once `mutex` is held. -/
def receivePayment (nGroups : Nat) (s : State) (group_id : Nat) : State :=
  let s := { s with receptionistStat := .RECVPAY
                    groupRecord := Function.update s.groupRecord group_id .DONE }
  let table_id := s.assignedTable group_id
  let s := { s with assignedTable := Function.update s.assignedTable group_id (-1) }
  if (0 : Int) < s.groupsWaiting then
    match decideNextGroup s.groupsWaiting s.groupRecord nGroups with
    | some new_group_id =>
        { s with groupRecord := Function.update s.groupRecord new_group_id .ATTABLE
                 receptionist := .receivePaymentSignal group_id new_group_id table_id }
    | none => { s with receptionist := .receivePaymentLeave group_id table_id }
  else { s with receptionist := .receivePaymentLeave group_id table_id }

/-! What the two critical sections leave alone. -/

section Frame

variable {NUMTABLES nGroups : Nat} {s : State} {g : Nat}

@[simp] theorem provideTableOrWaitingRoom_sem :
    (provideTableOrWaitingRoom NUMTABLES nGroups s g).sem = s.sem := by
  dsimp only [provideTableOrWaitingRoom]; split <;> (try split) <;> rfl

@[simp] theorem provideTableOrWaitingRoom_group :
    (provideTableOrWaitingRoom NUMTABLES nGroups s g).group = s.group := by
  dsimp only [provideTableOrWaitingRoom]; split <;> (try split) <;> rfl

@[simp] theorem provideTableOrWaitingRoom_waiter :
    (provideTableOrWaitingRoom NUMTABLES nGroups s g).waiter = s.waiter := by
  dsimp only [provideTableOrWaitingRoom]; split <;> (try split) <;> rfl

@[simp] theorem provideTableOrWaitingRoom_chef :
    (provideTableOrWaitingRoom NUMTABLES nGroups s g).chef = s.chef := by
  dsimp only [provideTableOrWaitingRoom]; split <;> (try split) <;> rfl

@[simp] theorem receivePayment_sem : (receivePayment nGroups s g).sem = s.sem := by
  dsimp only [receivePayment]; split <;> (try split) <;> rfl

@[simp] theorem receivePayment_group : (receivePayment nGroups s g).group = s.group := by
  dsimp only [receivePayment]; split <;> (try split) <;> rfl

@[simp] theorem receivePayment_waiter : (receivePayment nGroups s g).waiter = s.waiter := by
  dsimp only [receivePayment]; split <;> (try split) <;> rfl

@[simp] theorem receivePayment_chef : (receivePayment nGroups s g).chef = s.chef := by
  dsimp only [receivePayment]; split <;> (try split) <;> rfl

@[simp] theorem provideTableOrWaitingRoom_ghost :
    (provideTableOrWaitingRoom NUMTABLES nGroups s g).ghost = s.ghost := by
  dsimp only [provideTableOrWaitingRoom]; split <;> (try split) <;> rfl

@[simp] theorem provideTableOrWaitingRoom_waiterRequest :
    (provideTableOrWaitingRoom NUMTABLES nGroups s g).waiterRequest = s.waiterRequest := by
  dsimp only [provideTableOrWaitingRoom]; split <;> (try split) <;> rfl

@[simp] theorem provideTableOrWaitingRoom_foodGroup :
    (provideTableOrWaitingRoom NUMTABLES nGroups s g).foodGroup = s.foodGroup := by
  dsimp only [provideTableOrWaitingRoom]; split <;> (try split) <;> rfl

@[simp] theorem provideTableOrWaitingRoom_waiterReqs :
    (provideTableOrWaitingRoom NUMTABLES nGroups s g).waiterReqs = s.waiterReqs := by
  dsimp only [provideTableOrWaitingRoom]; split <;> (try split) <;> rfl

@[simp] theorem provideTableOrWaitingRoom_chefOrders :
    (provideTableOrWaitingRoom NUMTABLES nGroups s g).chefOrders = s.chefOrders := by
  dsimp only [provideTableOrWaitingRoom]; split <;> (try split) <;> rfl

/-- `provideTableOrWaitingRoom` writes only the arriving group's table. -/
theorem provideTableOrWaitingRoom_assignedTable {i : Nat} (h : i ≠ g) :
    (provideTableOrWaitingRoom NUMTABLES nGroups s g).assignedTable i = s.assignedTable i := by
  dsimp only [provideTableOrWaitingRoom]; split <;> (try split) <;> simp [Function.update_noteq h]

@[simp] theorem receivePayment_ghost : (receivePayment nGroups s g).ghost = s.ghost := by
  dsimp only [receivePayment]; split <;> (try split) <;> rfl

@[simp] theorem receivePayment_waiterRequest :
    (receivePayment nGroups s g).waiterRequest = s.waiterRequest := by
  dsimp only [receivePayment]; split <;> (try split) <;> rfl

@[simp] theorem receivePayment_foodGroup : (receivePayment nGroups s g).foodGroup = s.foodGroup := by
  dsimp only [receivePayment]; split <;> (try split) <;> rfl

@[simp] theorem receivePayment_waiterReqs :
    (receivePayment nGroups s g).waiterReqs = s.waiterReqs := by
  dsimp only [receivePayment]; split <;> (try split) <;> rfl

@[simp] theorem receivePayment_chefOrders :
    (receivePayment nGroups s g).chefOrders = s.chefOrders := by
  dsimp only [receivePayment]; split <;> (try split) <;> rfl

@[simp] theorem provideTableOrWaitingRoom_receptionistReqs :
    (provideTableOrWaitingRoom NUMTABLES nGroups s g).receptionistReqs = s.receptionistReqs := by
  dsimp only [provideTableOrWaitingRoom]; split <;> (try split) <;> rfl

@[simp] theorem receivePayment_receptionistReqs :
    (receivePayment nGroups s g).receptionistReqs = s.receptionistReqs := by
  dsimp only [receivePayment]; split <;> (try split) <;> rfl

/-- `receivePayment` frees the paying group's table and writes no other. -/
@[simp] theorem receivePayment_assignedTable :
    (receivePayment nGroups s g).assignedTable = Function.update s.assignedTable g (-1) := by
  dsimp only [receivePayment]; split <;> (try split) <;> rfl

/-- `provideTableOrWaitingRoom` when the scan finds no free table: the
group is queued. -/
theorem provideTableOrWaitingRoom_of_lt (hc : (s.groupRecord g).code < 2)
    (ht : scanTables s.assignedTable nGroups NUMTABLES 0 < 0) :
    provideTableOrWaitingRoom NUMTABLES nGroups s g =
      { s with receptionistStat := .ASSIGNTABLE, groupsWaiting := s.groupsWaiting + 1,
               groupRecord := Function.update s.groupRecord g .WAIT,
               receptionist := .provideTableLeave } := by
  simp [provideTableOrWaitingRoom, decideTableOrWait, hc, ht]

/-- `provideTableOrWaitingRoom` when the scan finds a table: the group is
seated there. -/
theorem provideTableOrWaitingRoom_of_le (hc : (s.groupRecord g).code < 2)
    (ht : 0 ≤ scanTables s.assignedTable nGroups NUMTABLES 0) :
    provideTableOrWaitingRoom NUMTABLES nGroups s g =
      { s with receptionistStat := .ASSIGNTABLE,
               groupRecord := Function.update s.groupRecord g .ATTABLE,
               assignedTable := Function.update s.assignedTable g
                 (scanTables s.assignedTable nGroups NUMTABLES 0),
               receptionist := .provideTableSignal g } := by
  simp [provideTableOrWaitingRoom, decideTableOrWait, hc, Int.not_lt.2 ht]

/-- `receivePayment` when a group waits: the freed table goes to the
lowest waiting group. -/
theorem receivePayment_of_some {ng : Nat} (h : (0 : Int) < s.groupsWaiting)
    (hn : scanWaiting (Function.update s.groupRecord g .DONE) nGroups 0 = some ng) :
    receivePayment nGroups s g =
      { s with receptionistStat := .RECVPAY
               groupRecord := Function.update (Function.update s.groupRecord g .DONE) ng .ATTABLE
               assignedTable := Function.update s.assignedTable g (-1)
               receptionist := .receivePaymentSignal g ng (s.assignedTable g) } := by
  simp [receivePayment, decideNextGroup, h, hn, Int.not_le.2 h]

/-- `receivePayment` when nobody waits: the table stays free. -/
theorem receivePayment_of_none
    (h : ¬ (0 : Int) < s.groupsWaiting ∨
      scanWaiting (Function.update s.groupRecord g .DONE) nGroups 0 = none) :
    receivePayment nGroups s g =
      { s with receptionistStat := .RECVPAY
               groupRecord := Function.update s.groupRecord g .DONE
               assignedTable := Function.update s.assignedTable g (-1)
               receptionist := .receivePaymentLeave g (s.assignedTable g) } := by
  rcases h with h | h
  · simp [receivePayment, h]
  · by_cases h' : (0 : Int) < s.groupsWaiting
    · simp [receivePayment, decideNextGroup, h, h', Int.not_le.2 h']
    · simp [receivePayment, h']

/-- `provideTableOrWaitingRoom` marks the group `WAIT` or `ATTABLE`. -/
theorem provideTableOrWaitingRoom_groupRecord (hc : (s.groupRecord g).code < 2) :
    (provideTableOrWaitingRoom NUMTABLES nGroups s g).groupRecord =
        Function.update s.groupRecord g .WAIT ∨
      (provideTableOrWaitingRoom NUMTABLES nGroups s g).groupRecord =
        Function.update s.groupRecord g .ATTABLE := by
  by_cases ht : scanTables s.assignedTable nGroups NUMTABLES 0 < 0
  · exact .inl (by rw [provideTableOrWaitingRoom_of_lt hc ht])
  · exact .inr (by rw [provideTableOrWaitingRoom_of_le hc (by omega)])

/-- `receivePayment` marks the paying group `DONE` and, when it hands the
table on, the chosen waiting group `ATTABLE`. -/
theorem receivePayment_groupRecord :
    (receivePayment nGroups s g).groupRecord = Function.update s.groupRecord g .DONE ∨
      ∃ ng, ng < nGroups ∧ Function.update s.groupRecord g .DONE ng = .WAIT ∧
        (receivePayment nGroups s g).groupRecord =
          Function.update (Function.update s.groupRecord g .DONE) ng .ATTABLE := by
  dsimp only [receivePayment]
  split
  · split
    · rename_i ng hn
      exact .inr ⟨ng, (decideNextGroup_wait hn).1, (decideNextGroup_wait hn).2, rfl⟩
    · exact .inl rfl
  · exact .inl rfl

theorem provideTableOrWaitingRoom_receptionist :
    (provideTableOrWaitingRoom NUMTABLES nGroups s g).receptionist = .aborted ∨
      (provideTableOrWaitingRoom NUMTABLES nGroups s g).receptionist = .provideTableLeave ∨
      (provideTableOrWaitingRoom NUMTABLES nGroups s g).receptionist = .provideTableSignal g := by
  dsimp only [provideTableOrWaitingRoom]; split <;> (try split) <;> simp

theorem receivePayment_receptionist :
    ∃ t, (∃ ng, (receivePayment nGroups s g).receptionist = .receivePaymentSignal g ng t) ∨
      (receivePayment nGroups s g).receptionist = .receivePaymentLeave g t := by
  dsimp only [receivePayment]; split <;> (try split) <;> simp

end Frame

/-- One atomic step of the receptionist. -/
def receptionistStep (NUMTABLES nGroups : Nat) (s : State) : Option State :=
  match s.receptionist with
  | .waitForGroup =>
      if s.receptionistReqs < nGroups * 2 then
        (s.down .mutex).map fun s =>
          { s with receptionistStat := .WAIT_FOR_REQUEST, receptionist := .waitForGroupLeave }
      else none
  | .waitForGroupLeave => some { s.up .mutex with receptionist := .waitForGroupWait }
  | .waitForGroupWait =>
      (s.down .receptionistReq).map fun s => { s with receptionist := .waitForGroupRead }
  | .waitForGroupRead =>
      (s.down .mutex).map fun s =>
        { s with receptionist := .waitForGroupReadLeave s.receptionistRequest
                 ghost := { s.ghost with
                   receptionistReads := s.ghost.receptionistReads ++ [s.receptionistRequest] } }
  | .waitForGroupReadLeave req => some { s.up .mutex with receptionist := .waitForGroupRelease req }
  | .waitForGroupRelease req =>
      let s := s.up .receptionistRequestPossible
      match req.reqType with
      | .TABLEREQ => some { s with receptionist := .provideTableOrWaitingRoom req.reqGroup }
      | .BILLREQ => some { s with receptionist := .receivePayment req.reqGroup }
      | _ => some { s with receptionist := .waitForGroup, receptionistReqs := s.receptionistReqs + 1 }
  | .provideTableOrWaitingRoom g =>
      (s.down .mutex).map (provideTableOrWaitingRoom NUMTABLES nGroups · g)
  | .provideTableSignal g => some { s.up (.waitForTable g) with receptionist := .provideTableLeave }
  | .provideTableLeave =>
      some { s.up .mutex with receptionist := .waitForGroup
                              receptionistReqs := s.receptionistReqs + 1 }
  | .receivePayment g => (s.down .mutex).map (receivePayment nGroups · g)
  | .receivePaymentSignal g ng t =>
      some { s.up (.waitForTable ng) with
               groupsWaiting := s.groupsWaiting - 1
               assignedTable := Function.update s.assignedTable ng t
               receptionist := .receivePaymentLeave g t }
  | .receivePaymentLeave g t => some { s.up .mutex with receptionist := .receivePaymentDone g t }
  | .receivePaymentDone _ t =>
      some { s.up (.tableDone t) with receptionist := .waitForGroup
                                      receptionistReqs := s.receptionistReqs + 1 }
  | .aborted => none

end Restaurant
