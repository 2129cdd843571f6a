import Restaurant.Seating.ReceptionistStep
/-!
# Restaurant — the receptionist's invariant holds in every reachable state

The waiter and the chef touch nothing the receptionist's invariant reads
(`Seating.congr`, `waiterStep_frame`, `chefStep_frame`), so with the
group and receptionist steps every step keeps it (`Seating.step`), and
with the token invariant it holds of every reachable state
(`seating_reachable`).
-/

namespace Restaurant

open State

variable {NUMTABLES nGroups : Nat} {s s' : State}

/-- **The invariant reads only the receptionist's side**: the groups, the
receptionist and its records and mailbox, the tables, and the semaphores
`receptionistReq`, `waitForTable` and `tableDone`. -/
theorem Seating.congr (hS : Seating NUMTABLES nGroups s) (hG : s'.group = s.group)
    (hst : s'.groupStat = s.groupStat) (hrec : s'.groupRecord = s.groupRecord)
    (hat : s'.assignedTable = s.assignedTable) (hgw : s'.groupsWaiting = s.groupsWaiting)
    (hreq : s'.receptionistRequest = s.receptionistRequest)
    (hw : s'.ghost.receptionistWrites = s.ghost.receptionistWrites)
    (hr : s'.ghost.receptionistReads = s.ghost.receptionistReads)
    (hR : s'.receptionist = s.receptionist) (hreqs : s'.receptionistReqs = s.receptionistReqs)
    (hsr : s'.sem .receptionistReq = s.sem .receptionistReq)
    (hwft : ∀ i, s'.sem (.waitForTable i) = s.sem (.waitForTable i))
    (htd : ∀ t, s'.sem (.tableDone t) = s.sem (.tableDone t)) :
    Seating NUMTABLES nGroups s' := by
  have hwait : waitingGroups nGroups s' = waitingGroups nGroups s := by
    simp only [waitingGroups, hrec]
  constructor
  case mail => simp only [receptionistPending, hG, hR, hsr, hr, hreq, hw]; exact hS.mail
  case writes => rw [hw, hG]; exact hS.writes
  case writes_lt => rw [hw]; exact hS.writes_lt
  case reads => rw [hr, hrec, hR]; exact hS.reads
  case read_table => rw [hr, hG]; exact hS.read_table
  case read_bill => rw [hr, hG]; exact hS.read_bill
  case phase =>
    intro i hi
    exact (hS.phase i hi).congr (by rw [hG]) (by rw [hst]) (by rw [hrec]) (by rw [hat]) (hwft i)
      (by rw [hR])
  case provide => rw [hR, hG, hat]; exact hS.provide
  case handing => rw [hR, hG, hat]; exact hS.handing
  case paying => rw [hR, hrec, hG]; exact hS.paying
  case holds_lt => rw [hR]; exact hS.holds_lt
  case not_aborted => rw [hR]; exact hS.not_aborted
  case groupsWaiting => rw [hgw, hwait, hR]; exact hS.groupsWaiting
  case tablesFull => rw [hgw, hat, hR]; exact hS.tablesFull
  case exclusive => rw [hat]; exact hS.exclusive
  case tableDone => intro t; rw [htd, hG, hR, hrec]; exact hS.tableDone t
  case served => rw [hreqs, hR, hr]; exact hS.served
  case bounded => rw [hreqs, hR]; exact hS.bounded

/-- The waiter works on its own mailbox, the chef's slot, `mutex` and
the food-path semaphores. -/
theorem waiterStep_frame (h : waiterStep nGroups s = some s') :
    s'.group = s.group ∧ s'.groupStat = s.groupStat ∧ s'.groupRecord = s.groupRecord ∧
    s'.assignedTable = s.assignedTable ∧ s'.groupsWaiting = s.groupsWaiting ∧
    s'.receptionistRequest = s.receptionistRequest ∧
    s'.ghost.receptionistWrites = s.ghost.receptionistWrites ∧
    s'.ghost.receptionistReads = s.ghost.receptionistReads ∧ s'.receptionist = s.receptionist ∧
    s'.receptionistReqs = s.receptionistReqs ∧ s'.sem .receptionistReq = s.sem .receptionistReq ∧
    (∀ i, s'.sem (.waitForTable i) = s.sem (.waitForTable i)) ∧
    (∀ t, s'.sem (.tableDone t) = s.sem (.tableDone t)) := by
  cases hp : s.waiter <;> simp only [Restaurant.waiterStep, hp] at h <;> (try split at h) <;>
    simp only [Option.map_eq_some', down_eq_some, Option.some.injEq, reduceCtorEq, false_and,
      exists_const] at h
  all_goals obtain ⟨_, ⟨-, rfl⟩, rfl⟩ := h
  all_goals simp [up]

/-- The chef works on its slot, the waiter's mailbox, `mutex` and the
hand-over semaphores. -/
theorem chefStep_frame (h : chefStep nGroups s = some s') :
    s'.group = s.group ∧ s'.groupStat = s.groupStat ∧ s'.groupRecord = s.groupRecord ∧
    s'.assignedTable = s.assignedTable ∧ s'.groupsWaiting = s.groupsWaiting ∧
    s'.receptionistRequest = s.receptionistRequest ∧
    s'.ghost.receptionistWrites = s.ghost.receptionistWrites ∧
    s'.ghost.receptionistReads = s.ghost.receptionistReads ∧ s'.receptionist = s.receptionist ∧
    s'.receptionistReqs = s.receptionistReqs ∧ s'.sem .receptionistReq = s.sem .receptionistReq ∧
    (∀ i, s'.sem (.waitForTable i) = s.sem (.waitForTable i)) ∧
    (∀ t, s'.sem (.tableDone t) = s.sem (.tableDone t)) := by
  cases hp : s.chef <;> simp only [Restaurant.chefStep, hp] at h <;> (try split at h) <;>
    simp only [Option.map_eq_some', down_eq_some, Option.some.injEq, reduceCtorEq, false_and,
      exists_const] at h
  all_goals obtain ⟨_, ⟨-, rfl⟩, rfl⟩ := h
  all_goals simp [up, postWaiter]

theorem Seating.step {a : Actor} (hT : Tokens nGroups s) (hS : Seating NUMTABLES nGroups s)
    (h : step NUMTABLES nGroups s a = some s') : Seating NUMTABLES nGroups s' := by
  cases a with
  | group g =>
    simp only [Restaurant.step] at h
    split at h
    · exact hS.groupStep (by assumption) hT h
    · cases h
  | receptionist => exact hS.receptionistStep hT h
  | waiter =>
    obtain ⟨h1, h2, h3, h4, h5, h6, h7, h8, h9, h10, h11, h12, h13⟩ := waiterStep_frame h
    exact hS.congr h1 h2 h3 h4 h5 h6 h7 h8 h9 h10 h11 h12 h13
  | chef =>
    obtain ⟨h1, h2, h3, h4, h5, h6, h7, h8, h9, h10, h11, h12, h13⟩ := chefStep_frame h
    exact hS.congr h1 h2 h3 h4 h5 h6 h7 h8 h9 h10 h11 h12 h13

/-- **The token and receptionist invariants hold in every reachable
state.** -/
theorem seating_reachable (h : Reachable NUMTABLES nGroups s) :
    Tokens nGroups s ∧ Seating NUMTABLES nGroups s := by
  induction h with
  | init hi => exact ⟨tokens_initial hi, seating_initial hi⟩
  | step a _ hs ih => exact ⟨ih.1.step hs, ih.2.step ih.1 hs⟩

end Restaurant
