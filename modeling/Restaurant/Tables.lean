import Restaurant.Seating.Preserved
import Mathlib.Data.Finset.Card
/-!
# Restaurant — tables, the queue and the receptionist's records

What the receptionist's invariant says once it holds everywhere
(`seating_reachable`). A table has at most one group and `assignedTable`
is always `-1` or a table (`table_exclusive`). Outside the critical
sections `groupsWaiting` counts the queued groups
(`groupsWaiting_eq_waiting`), a queued group means every table is taken
(`tables_full_of_wait`), and the private records agree with
`assignedTable` and only move forward (`groupRecord_mirror`). At most
`nGroups - NUMTABLES` groups are ever queued (`queue_bound`), so with as
many tables as groups nobody is (`no_queue`). A group can leave on
another group's payment acknowledgement before its own is served
(`checkout_ack_stolen`); a leaving group is then still seated at the
table it paid for, and otherwise done (`leaving_record`).
-/

namespace Restaurant

open State

variable {NUMTABLES nGroups : Nat} {s s' : State}

/-! ## Reading the invariant -/

namespace Seating

variable (hS : Seating NUMTABLES nGroups s)
include hS

/-- **A group's record and its table agree**, except for the group a
freed table is being handed to. -/
theorem record_table {g : Nat} (hg : g < nGroups) :
    (s.groupRecord g = .TOARRIVE ∧ s.assignedTable g = -1) ∨
    (s.groupRecord g = .WAIT ∧ s.assignedTable g = -1) ∨
    (s.groupRecord g = .ATTABLE ∧ 0 ≤ s.assignedTable g ∧ s.assignedTable g < NUMTABLES) ∨
    (s.groupRecord g = .DONE ∧ s.assignedTable g = -1) ∨
    (s.groupRecord g = .ATTABLE ∧ s.assignedTable g = -1 ∧
      ∃ p t, s.receptionist = .receivePaymentSignal p g t) := by
  have ph := hS.phase g hg
  rcases Nat.lt_or_ge (s.group g).idx 4 with h | h
  · obtain ⟨e1, e2, -⟩ := ph.arriving (by omega); exact .inl ⟨e1, e2⟩
  rcases Nat.lt_or_ge (s.group g).idx 5 with h' | h'
  · rcases ph.atReception (GroupPc.eq_checkInWaitTable (by omega)) with
      ⟨e1, e2, -⟩ | ⟨e1, e2, -⟩ | ⟨e1, h0, hT, -⟩ | ⟨e1, -, e⟩
    · exact .inl ⟨e1, e2⟩
    · exact .inr (.inl ⟨e1, e2⟩)
    · exact .inr (.inr (.inl ⟨e1, h0, hT⟩))
    · cases hr : s.receptionist <;>
        simp only [hr, ReceptionistPc.signals, reduceCtorEq, Option.some.injEq] at e
      · subst e; obtain ⟨-, -, h0, hT⟩ := hS.provide _ hr; exact .inr (.inr (.inl ⟨e1, h0, hT⟩))
      · subst e; exact .inr (.inr (.inr (.inr ⟨e1, (hS.handing _ _ _ hr).2.2.1, _, _, rfl⟩)))
  rcases Nat.lt_or_ge (s.group g).idx 19 with h'' | h''
  · obtain ⟨e1, h0, hT, -⟩ := ph.seated h' (by omega); exact .inr (.inr (.inl ⟨e1, h0, hT⟩))
  · obtain ⟨-, t, -, h0, hT, ⟨e1, e⟩ | ⟨e1, e⟩⟩ := ph.leaving h''
    · exact .inr (.inr (.inl ⟨e1, e ▸ h0, e ▸ hT⟩))
    · exact .inr (.inr (.inr (.inl ⟨e1, e⟩)))

/-- `assignedTable` is `-1` or a table. -/
theorem assignedTable_range {g : Nat} (hg : g < nGroups) :
    s.assignedTable g = -1 ∨ 0 ≤ s.assignedTable g ∧ s.assignedTable g < NUMTABLES := by
  rcases hS.record_table hg with ⟨-, e⟩ | ⟨-, e⟩ | ⟨-, h⟩ | ⟨-, e⟩ | ⟨-, e, -⟩
  all_goals first | exact .inl e | exact .inr h

/-- Outside a hand-over, a group is `ATTABLE` exactly when it has a
table. -/
theorem attable_iff (hh : s.receptionist.handing = false) {g : Nat} (hg : g < nGroups) :
    s.groupRecord g = .ATTABLE ↔ s.assignedTable g ≠ -1 := by
  rcases hS.record_table hg with ⟨e1, e2⟩ | ⟨e1, e2⟩ | ⟨e1, h0, -⟩ | ⟨e1, e2⟩ | ⟨-, -, p, t, e⟩
  · simp [e1, e2]
  · simp [e1, e2]
  · simp only [e1, true_iff]; omega
  · simp [e1, e2]
  · simp [e, ReceptionistPc.handing] at hh

end Seating

/-- A hand-over happens under `mutex`. -/
theorem ReceptionistPc.handing_eq_false_of_holdsMutex {r : ReceptionistPc}
    (hm : r.holdsMutex = false) : r.handing = false := by
  cases r <;> simp_all [ReceptionistPc.holdsMutex, ReceptionistPc.handing]

/-! ## Tables are exclusive -/

/-- **Table exclusivity.** In every reachable state each group's
`assignedTable` is `-1` or a table, and no two groups share a table. -/
theorem table_exclusive (h : Reachable NUMTABLES nGroups s) :
    (∀ g, g < nGroups →
      s.assignedTable g = -1 ∨ 0 ≤ s.assignedTable g ∧ s.assignedTable g < NUMTABLES) ∧
    ∀ g h, g < nGroups → h < nGroups → g ≠ h → 0 ≤ s.assignedTable g →
      s.assignedTable g ≠ s.assignedTable h :=
  have hS := (seating_reachable h).2
  ⟨fun _ hg => hS.assignedTable_range hg, hS.exclusive⟩

/-- Group 0 is seated, then group 1 asks for a table; the receptionist,
holding its `TABLEREQ`, is about to decide. -/
def secondArrivalSchedule : List Actor :=
  .replicate 4 (.group 0) ++ .replicate 9 .receptionist ++ .replicate 4 (.group 1) ++
    .replicate 6 .receptionist

/-- Two tables, two groups, both seated. -/
def twoSeatedState : State :=
  (run 2 2 initState (secondArrivalSchedule ++ .replicate 3 .receptionist)).getD initState

theorem table_exclusive_twoSeatedState :
    0 ≤ twoSeatedState.assignedTable 0 ∧ 0 ≤ twoSeatedState.assignedTable 1 ∧
    (∀ g, g < 2 → twoSeatedState.assignedTable g = -1 ∨
      0 ≤ twoSeatedState.assignedTable g ∧ twoSeatedState.assignedTable g < (2 : Nat)) ∧
    ∀ g h, g < 2 → h < 2 → g ≠ h → 0 ≤ twoSeatedState.assignedTable g →
      twoSeatedState.assignedTable g ≠ twoSeatedState.assignedTable h :=
  ⟨by decide, by decide, table_exclusive (Reachable.run_getD (.init initial_initState) (by decide))⟩

/-! ## The queue -/

/-- One table, two groups: group 0 is seated, then group 1 asks for a
table and is queued. Every process is outside its critical sections. -/
def queuedSchedule : List Actor :=
  .replicate 4 (.group 0) ++ .replicate 9 .receptionist ++ .replicate 4 (.group 1) ++
    .replicate 8 .receptionist

/-- The state `queuedSchedule` leads to. -/
def queuedState : State := (run 1 2 initState queuedSchedule).getD initState

theorem reachable_queuedState : Reachable 1 2 queuedState :=
  Reachable.run_getD (.init initial_initState) (by decide)

/-- Continuing `queuedSchedule`: group 0 eats and asks for the bill
while group 1 is queued, and the receptionist, holding the `BILLREQ`, is
about to take the payment. -/
def payingSchedule : List Actor :=
  queuedSchedule ++ .replicate 5 (.group 0) ++ .replicate 10 .waiter ++ .replicate 8 .chef ++
    .replicate 10 .waiter ++ .replicate 10 (.group 0) ++ .replicate 6 .receptionist

/-- The state `payingSchedule` leads to. -/
def payingState : State := (run 1 2 initState payingSchedule).getD initState

set_option maxRecDepth 10000 in
theorem reachable_payingState : Reachable 1 2 payingState :=
  Reachable.run_getD (.init initial_initState) (by decide)

/-- **The waiting-group counter.** Outside the critical sections
`groupsWaiting` is the number of queued groups, so it lies in
`[0, nGroups]`; and when `receivePayment` finds it positive,
`decideNextGroup` names a queued group. -/
theorem groupsWaiting_eq_waiting (h : Reachable NUMTABLES nGroups s) :
    (MutexFree nGroups s → s.groupsWaiting = waitingGroups nGroups s ∧ 0 ≤ s.groupsWaiting ∧
      s.groupsWaiting ≤ nGroups) ∧
    ∀ g, s.receptionist = .receivePayment g → 0 < s.groupsWaiting →
      ∃ ng, decideNextGroup s.groupsWaiting (Function.update s.groupRecord g .DONE) nGroups =
        some ng ∧ ng < nGroups ∧ s.groupRecord ng = .WAIT := by
  have hS := (seating_reachable h).2
  refine ⟨fun hm => ?_, fun g hp hpos => ?_⟩
  · have := hS.groupsWaiting
    rw [ReceptionistPc.handing_eq_false_of_holdsMutex hm.2.1] at this
    have := countGroups_le nGroups fun g => decide (s.groupRecord g = .WAIT)
    simp only [waitingGroups, Bool.toNat_false] at *
    omega
  · obtain ⟨hg, hrec, -⟩ := hS.holds_bill (by rw [hp]; rfl)
    have hgw := hS.groupsWaiting
    simp only [hp, ReceptionistPc.handing, Bool.toNat_false] at hgw
    obtain ⟨w, hw, hww⟩ := countGroups_pos.1 (show 0 < waitingGroups nGroups s by omega)
    rcases @scanWaiting_spec (Function.update s.groupRecord g .DONE) nGroups 0 with
      ⟨-, hnone⟩ | ⟨ng, e, -, hng, hwt, -⟩
    · have hwg : w ≠ g := fun e => by subst e; simp [hrec] at hww
      exact absurd (by simpa [Function.update_noteq hwg] using hww) (hnone w (Nat.zero_le _) (by omega))
    · have hngg : ng ≠ g := fun e' => by subst e'; simp at hwt
      refine ⟨ng, ?_, by omega, by simpa [Function.update_noteq hngg] using hwt⟩
      simp only [decideNextGroup, e]
      rw [if_neg (by omega)]

set_option maxRecDepth 10000 in
theorem groupsWaiting_eq_waiting_payingState :
    MutexFree 2 payingState ∧ payingState.groupsWaiting = 1 ∧
    payingState.receptionist = .receivePayment 0 ∧
    (MutexFree 2 payingState → payingState.groupsWaiting = waitingGroups 2 payingState ∧
      0 ≤ payingState.groupsWaiting ∧ payingState.groupsWaiting ≤ (2 : Nat)) ∧
    ∀ g, payingState.receptionist = .receivePayment g → 0 < payingState.groupsWaiting →
      ∃ ng, decideNextGroup payingState.groupsWaiting
          (Function.update payingState.groupRecord g .DONE) 2 = some ng ∧
        ng < 2 ∧ payingState.groupRecord ng = .WAIT :=
  ⟨by unfold MutexFree; decide, by decide, by decide,
    groupsWaiting_eq_waiting reachable_payingState⟩

/-- **No group waits while a table is free.** Outside the critical
sections, a queued group means every table is taken. -/
theorem tables_full_of_wait (h : Reachable NUMTABLES nGroups s) (hm : MutexFree nGroups s)
    (hw : ∃ g, g < nGroups ∧ s.groupRecord g = .WAIT) :
    ∀ t : Nat, t < NUMTABLES → ∃ h, h < nGroups ∧ s.assignedTable h = t := by
  have hS := (seating_reachable h).2
  have hh := ReceptionistPc.handing_eq_false_of_holdsMutex hm.2.1
  obtain ⟨g, hg, hwg⟩ := hw
  have hpos : 0 < s.groupsWaiting := by
    have := hS.groupsWaiting
    have : 0 < waitingGroups nGroups s := countGroups_pos.2 ⟨g, hg, by simp [hwg]⟩
    omega
  intro t ht
  rcases hS.tablesFull hpos t ht with e | ⟨p, ng, e⟩
  · exact e
  · simp [e, ReceptionistPc.handing] at hh

theorem tables_full_of_wait_queuedState :
    MutexFree 2 queuedState ∧ (∃ g, g < 2 ∧ queuedState.groupRecord g = .WAIT) ∧
    ∀ t : Nat, t < 1 → ∃ h, h < 2 ∧ queuedState.assignedTable h = t :=
  have hm : MutexFree 2 queuedState := by unfold MutexFree; decide
  have hw : ∃ g, g < 2 ∧ queuedState.groupRecord g = .WAIT := ⟨1, by decide, by decide⟩
  ⟨hm, hw, tables_full_of_wait reachable_queuedState hm hw⟩

/-! ## The records -/

/-- **How a record moves**: only the receptionist changes it, from
`TOARRIVE` when it serves the group's `TABLEREQ`, from `WAIT` to
`ATTABLE` in `receivePayment`, and to `DONE` when it serves the group's
`BILLREQ`. -/
theorem groupRecord_step (hS : Seating NUMTABLES nGroups s) {a : Actor}
    (h : step NUMTABLES nGroups s a = some s') (g : Nat) :
    s'.groupRecord g = s.groupRecord g ∨
    (s.groupRecord g = .TOARRIVE ∧ (s'.groupRecord g = .WAIT ∨ s'.groupRecord g = .ATTABLE) ∧
      a = .receptionist ∧ s.receptionist = .provideTableOrWaitingRoom g) ∨
    (s.groupRecord g = .WAIT ∧ s'.groupRecord g = .ATTABLE ∧ a = .receptionist ∧
      ∃ p, s.receptionist = .receivePayment p) ∨
    (s.groupRecord g = .ATTABLE ∧ s'.groupRecord g = .DONE ∧ a = .receptionist ∧
      s.receptionist = .receivePayment g) := by
  cases a with
  | group i =>
    simp only [Restaurant.step] at h
    split at h
    · exact .inl (by rw [(groupStep_frame h).1])
    · cases h
  | waiter => exact .inl (by rw [(waiterStep_frame h).2.2.1])
  | chef => exact .inl (by rw [(chefStep_frame h).2.2.1])
  | receptionist =>
    simp only [Restaurant.step] at h
    cases hp : s.receptionist <;> simp only [Restaurant.receptionistStep, hp] at h <;>
      (try split at h) <;>
      simp only [Option.map_eq_some', down_eq_some, Option.some.injEq, reduceCtorEq, false_and,
        exists_const] at h
    all_goals obtain ⟨_, ⟨-, rfl⟩, rfl⟩ := h
    all_goals first | exact .inl rfl | skip
    · rename_i i
      obtain ⟨-, hrec, -⟩ := hS.holds_table (by rw [hp]; rfl)
      by_cases hig : g = i
      · subst hig
        refine .inr (.inl ⟨hrec, ?_, rfl, rfl⟩)
        rcases provideTableOrWaitingRoom_groupRecord (s := { s with sem := Function.update s.sem .mutex (s.sem .mutex - 1) }) (g := g)
          (by rw [hrec]; decide) with e | e <;> rw [e] <;> simp
      · refine .inl ?_
        rcases provideTableOrWaitingRoom_groupRecord (s := { s with sem := Function.update s.sem .mutex (s.sem .mutex - 1) }) (g := i)
          (by rw [hrec]; decide) with e | e <;> rw [e] <;> simp [hig]
    · rename_i i
      obtain ⟨-, hrec, -⟩ := hS.holds_bill (by rw [hp]; rfl)
      rcases receivePayment_groupRecord (s := { s with sem := Function.update s.sem .mutex (s.sem .mutex - 1) }) (g := i) with
        e | ⟨ng, -, hw, e⟩ <;> rw [e]
      · by_cases hig : g = i
        · subst hig; exact .inr (.inr (.inr ⟨hrec, by simp, rfl, rfl⟩))
        · exact .inl (by simp [hig])
      · have hngi : ng ≠ i := fun e' => by subst e'; simp at hw
        simp only [Function.update_noteq hngi] at hw
        by_cases hig : g = i
        · subst hig
          exact .inr (.inr (.inr ⟨hrec, by simp [Function.update_noteq (Ne.symm hngi)], rfl, rfl⟩))
        · by_cases hgn : g = ng
          · subst hgn; exact .inr (.inr (.inl ⟨hw, by simp, rfl, i, rfl⟩))
          · exact .inl (by simp [hig, hgn])

/-- **The receptionist's private mirror.** Outside the critical sections
a group is `ATTABLE` exactly when it has a table; a record only moves
forward along `TOARRIVE → (WAIT →) ATTABLE → DONE`, at the points
`groupRecord_step` names; and the `assert` of `decideTableOrWait` holds
whenever it is reached. -/
theorem groupRecord_mirror (h : Reachable NUMTABLES nGroups s) :
    (MutexFree nGroups s → ∀ g, g < nGroups →
      (s.groupRecord g = .ATTABLE ↔ s.assignedTable g ≠ -1)) ∧
    (∀ a s' g, step NUMTABLES nGroups s a = some s' →
      s'.groupRecord g = s.groupRecord g ∨
      (s.groupRecord g = .TOARRIVE ∧ (s'.groupRecord g = .WAIT ∨ s'.groupRecord g = .ATTABLE) ∧
        a = .receptionist ∧ s.receptionist = .provideTableOrWaitingRoom g) ∨
      (s.groupRecord g = .WAIT ∧ s'.groupRecord g = .ATTABLE ∧ a = .receptionist ∧
        ∃ p, s.receptionist = .receivePayment p) ∨
      (s.groupRecord g = .ATTABLE ∧ s'.groupRecord g = .DONE ∧ a = .receptionist ∧
        s.receptionist = .receivePayment g)) ∧
    ∀ g, s.receptionist = .provideTableOrWaitingRoom g → (s.groupRecord g).code < 2 := by
  have hS := (seating_reachable h).2
  refine ⟨fun hm g hg => hS.attable_iff (ReceptionistPc.handing_eq_false_of_holdsMutex hm.2.1) hg,
    fun a s' g hs => groupRecord_step hS hs g, fun g hp => ?_⟩
  rw [(hS.holds_table (by rw [hp]; rfl)).2.1]
  decide

theorem groupRecord_mirror_queuedState :
    (MutexFree 2 queuedState → ∀ g, g < 2 →
      (queuedState.groupRecord g = .ATTABLE ↔ queuedState.assignedTable g ≠ -1)) ∧
    (∀ a s' g, step 1 2 queuedState a = some s' →
      s'.groupRecord g = queuedState.groupRecord g ∨
      (queuedState.groupRecord g = .TOARRIVE ∧
        (s'.groupRecord g = .WAIT ∨ s'.groupRecord g = .ATTABLE) ∧
        a = .receptionist ∧ queuedState.receptionist = .provideTableOrWaitingRoom g) ∨
      (queuedState.groupRecord g = .WAIT ∧ s'.groupRecord g = .ATTABLE ∧ a = .receptionist ∧
        ∃ p, queuedState.receptionist = .receivePayment p) ∨
      (queuedState.groupRecord g = .ATTABLE ∧ s'.groupRecord g = .DONE ∧ a = .receptionist ∧
        queuedState.receptionist = .receivePayment g)) ∧
    ∀ g, queuedState.receptionist = .provideTableOrWaitingRoom g →
      (queuedState.groupRecord g).code < 2 :=
  groupRecord_mirror reachable_queuedState

/-! ## As many tables as groups -/

/-- **Pigeonhole.** Every table of `A` is held by a group and no group of
`U` holds one: `A` and `U` together fit in the groups. -/
theorem card_tables_add_card_le {aT : Nat → Int} {A U : Finset Nat}
    (hU : U ⊆ Finset.range nGroups) (hfree : ∀ h ∈ U, aT h = -1)
    (hfull : ∀ t ∈ A, ∃ h, h < nGroups ∧ aT h = t) : A.card + U.card ≤ nGroups := by
  have hsub : A ⊆ (Finset.range nGroups \ U).image fun h => (aT h).toNat := by
    intro t ht
    obtain ⟨h, hh, e⟩ := hfull t ht
    refine Finset.mem_image.2 ⟨h, Finset.mem_sdiff.2 ⟨Finset.mem_range.2 hh, fun hu => ?_⟩, by simp [e]⟩
    have := hfree h hu
    omega
  have hUn : U.card ≤ nGroups := by simpa using Finset.card_le_card hU
  calc A.card + U.card ≤ (Finset.range nGroups \ U).card + U.card :=
        Nat.add_le_add_right ((Finset.card_le_card hsub).trans Finset.card_image_le) _
    _ = nGroups := by rw [Finset.card_sdiff hU, Finset.card_range, Nat.sub_add_cancel hUn]

/-- `countGroups` as the size of a set of groups. -/
theorem countGroups_eq_card {n : Nat} (p : Nat → Bool) :
    countGroups n p = ((Finset.range n).filter fun i => p i = true).card := by
  induction n with
  | zero => rfl
  | succ n ih =>
    rw [countGroups_succ, ih, Finset.range_succ, Finset.filter_insert]
    cases hn : p n
    · simp
    · rw [if_pos rfl, Finset.card_insert_of_not_mem (by simp)]; rfl

namespace Seating

variable (hS : Seating NUMTABLES nGroups s)
include hS

/-- The group a freed table is handed to is `ATTABLE` already. -/
theorem handing_attable {p ng : Nat} {t : Int}
    (hr : s.receptionist = .receivePaymentSignal p ng t) : s.groupRecord ng = .ATTABLE := by
  obtain ⟨hng, hpc, -⟩ := hS.handing p ng t hr
  rcases (hS.phase ng hng).atReception hpc with ⟨-, -, -, h⟩ | ⟨-, -, -, h⟩ | ⟨-, -, -, -, h⟩ |
    ⟨e, -⟩
  all_goals first | exact e | simp [hr, ReceptionistPc.signals] at h

/-- A queued group has no table. -/
theorem assignedTable_of_wait {g : Nat} (hg : g < nGroups) (hw : s.groupRecord g = .WAIT) :
    s.assignedTable g = -1 := by
  rcases hS.record_table hg with ⟨e, -⟩ | ⟨-, e⟩ | ⟨e, -⟩ | ⟨e, -⟩ | ⟨e, -⟩ <;> simp_all

/-- A group that has paid has no table. -/
theorem assignedTable_of_done {g : Nat} (hg : g < nGroups) (hd : s.groupRecord g = .DONE) :
    s.assignedTable g = -1 := by
  rcases hS.record_table hg with ⟨e, -⟩ | ⟨e, -⟩ | ⟨e, -⟩ | ⟨-, e⟩ | ⟨e, -⟩ <;> simp_all

/-- **The queue fits in the groups the tables leave over.** A queue
needs every table taken (`tablesFull`) by a group that is not queued;
during a hand-over the paying and the chosen group lack a table too,
and only the handed-over table may be free. -/
theorem groupsWaiting_add_le (hpos : 0 < s.groupsWaiting) :
    s.groupsWaiting + NUMTABLES ≤ nGroups := by
  have hgw := hS.groupsWaiting
  let W := (Finset.range nGroups).filter fun g => decide (s.groupRecord g = .WAIT) = true
  have hWc : waitingGroups nGroups s = W.card := countGroups_eq_card _
  have hWsub : W ⊆ Finset.range nGroups := Finset.filter_subset _ _
  have hWfree : ∀ h ∈ W, s.assignedTable h = -1 := fun h hh => by
    obtain ⟨hh, hw⟩ := Finset.mem_filter.1 hh
    exact hS.assignedTable_of_wait (Finset.mem_range.1 hh) (of_decide_eq_true hw)
  cases hr : s.receptionist.handing
  · -- nobody is being handed a table: every table is held
    rw [hr, Bool.toNat_false] at hgw
    have hfull : ∀ t ∈ Finset.range NUMTABLES, ∃ h, h < nGroups ∧ s.assignedTable h = t :=
      fun t ht => (hS.tablesFull hpos t (Finset.mem_range.1 ht)).resolve_right
        fun ⟨p, ng, e⟩ => by simp [e, ReceptionistPc.handing] at hr
    have := card_tables_add_card_le hWsub hWfree hfull
    rw [Finset.card_range] at this
    omega
  · -- table `t` goes from `p` to `ng`: neither holds a table
    obtain ⟨p, ng, t, hr'⟩ : ∃ p ng t, s.receptionist = .receivePaymentSignal p ng t := by
      cases e : s.receptionist <;> simp [e, ReceptionistPc.handing] at hr
      exact ⟨_, _, _, rfl⟩
    rw [hr, Bool.toNat_true] at hgw
    obtain ⟨hng, hngpc, hngT, ht0, htT, -⟩ := hS.handing _ _ _ hr'
    obtain ⟨hp, hprec, -, hp19⟩ := hS.paying p t (by rw [hr']; rfl)
    have hpng : p ≠ ng := fun e => by subst e; rw [hngpc] at hp19; simp [GroupPc.idx] at hp19
    have hpW : p ∉ W := fun hm => by simp [W, hprec] at hm
    have hngW : ng ∉ W := fun hm => by simp [W, hS.handing_attable hr'] at hm
    have hfull : ∀ t' ∈ (Finset.range NUMTABLES).erase t.toNat,
        ∃ h, h < nGroups ∧ s.assignedTable h = t' := by
      intro t' ht'
      obtain ⟨hne, hlt⟩ := Finset.mem_erase.1 ht'
      refine (hS.tablesFull hpos t' (Finset.mem_range.1 hlt)).resolve_right fun ⟨p', ng', e⟩ => ?_
      rw [hr', ReceptionistPc.receivePaymentSignal.injEq] at e
      omega
    have := card_tables_add_card_le (U := insert p (insert ng W))
      (by simp [Finset.insert_subset_iff, hp, hng, hWsub])
      (by
        simp only [Finset.mem_insert]
        rintro h (rfl | rfl | hh)
        · exact hS.assignedTable_of_done hp hprec
        · exact hngT
        · exact hWfree h hh) hfull
    rw [Finset.card_erase_of_mem (Finset.mem_range.2 (by omega)), Finset.card_range,
      Finset.card_insert_of_not_mem (by simp [hpng, hpW]), Finset.card_insert_of_not_mem hngW]
      at this
    omega

/-- **With no more groups than tables the queue stays empty.** -/
theorem groupsWaiting_le (hle : nGroups ≤ NUMTABLES) : ¬ 0 < s.groupsWaiting := fun hpos => by
  have := hS.groupsWaiting_add_le hpos
  omega

end Seating

/-- **No queue with enough tables.** When there are at least as many
tables as groups, `groupsWaiting` stays `0`, no group is ever queued, and
every `TABLEREQ` is answered with a table at once. -/
theorem no_queue (hle : nGroups ≤ NUMTABLES) (h : Reachable NUMTABLES nGroups s) :
    s.groupsWaiting = 0 ∧ (∀ g, g < nGroups → s.groupRecord g ≠ .WAIT) ∧
    ∀ g s', s.receptionist = .provideTableOrWaitingRoom g →
      step NUMTABLES nGroups s .receptionist = some s' →
      s'.receptionist = .provideTableSignal g ∧ s'.groupsWaiting = s.groupsWaiting := by
  have hS := (seating_reachable h).2
  have hgw := hS.groupsWaiting
  have hnot := hS.groupsWaiting_le hle
  have hw0 : waitingGroups nGroups s = 0 := by omega
  refine ⟨by omega, fun g hg hwg => ?_, fun g s' hp hs => ?_⟩
  · exact absurd hw0 (Nat.pos_iff_ne_zero.1 (countGroups_pos.2 ⟨g, hg, decide_eq_true hwg⟩))
  · obtain ⟨hg, hrec, -, hgT⟩ := hS.holds_table (by rw [hp]; rfl)
    rw [Restaurant.step, Restaurant.receptionistStep, hp] at hs
    simp only [Option.map_eq_some', down_eq_some, Option.some.injEq] at hs
    obtain ⟨_, ⟨-, rfl⟩, rfl⟩ := hs
    rcases @scanTables_spec s.assignedTable nGroups NUMTABLES 0 with ⟨ht, hall⟩ | ⟨t, ht, -⟩
    · -- every table taken although `g` has none
      have := card_tables_add_card_le (A := Finset.range NUMTABLES) (U := {g}) (by simpa using hg)
        (by simpa using hgT) fun t htr => hall t (Nat.zero_le _) (by simpa using htr)
      simp only [Finset.card_range, Finset.card_singleton] at this
      omega
    · rw [provideTableOrWaitingRoom_of_le
          (s := { s with sem := Function.update s.sem .mutex (s.sem .mutex - 1) })
          (by rw [hrec]; decide)
        (show (0 : Int) ≤ scanTables s.assignedTable nGroups NUMTABLES 0 by omega)]
      exact ⟨rfl, rfl⟩

/-- Two tables, two groups: group 0 sits at table 0 and the receptionist
holds group 1's `TABLEREQ`. -/
def secondArrivalState : State := (run 2 2 initState secondArrivalSchedule).getD initState

theorem reachable_secondArrivalState : Reachable 2 2 secondArrivalState :=
  Reachable.run_getD (.init initial_initState) (by decide)

theorem no_queue_secondArrivalState :
    secondArrivalState.receptionist = .provideTableOrWaitingRoom 1 ∧
    (step 2 2 secondArrivalState .receptionist).isSome ∧ 2 ≤ 2 ∧
    secondArrivalState.groupsWaiting = 0 ∧
    (∀ g, g < 2 → secondArrivalState.groupRecord g ≠ .WAIT) ∧
    ∀ g s', secondArrivalState.receptionist = .provideTableOrWaitingRoom g →
      step 2 2 secondArrivalState .receptionist = some s' →
      s'.receptionist = .provideTableSignal g ∧ s'.groupsWaiting = secondArrivalState.groupsWaiting :=
  ⟨by decide, by decide, Nat.le_refl 2, no_queue (Nat.le_refl 2) reachable_secondArrivalState⟩

/-- **The queue is bounded.** In every reachable state `groupsWaiting`
is `0`, or leaves a group for every table: at most
`nGroups - NUMTABLES` groups are ever queued. -/
theorem queue_bound (h : Reachable NUMTABLES nGroups s) :
    0 ≤ s.groupsWaiting ∧ (s.groupsWaiting = 0 ∨ s.groupsWaiting + NUMTABLES ≤ nGroups) := by
  have hS := (seating_reachable h).2
  have := hS.groupsWaiting
  refine ⟨by omega, ?_⟩
  by_cases hpos : 0 < s.groupsWaiting
  · exact .inr (hS.groupsWaiting_add_le hpos)
  · exact .inl (by omega)

theorem queue_bound_queuedState :
    0 ≤ queuedState.groupsWaiting ∧
      (queuedState.groupsWaiting = 0 ∨ queuedState.groupsWaiting + (1 : Nat) ≤ (2 : Nat)) :=
  queue_bound reachable_queuedState

/-! ## Checkout -/

/-- Continuing `queuedSchedule`: group 0 eats and asks for the bill;
paying, it frees table 0, which the receptionist hands to group 1 and
releases `mutex` before its `semUp` of `tableDone[0]`. Group 1 then eats,
asks for the bill and waits on `tableDone[0]` beside group 0; the
receptionist's one `semUp` wakes group 1. -/
def ackStolenSchedule : List Actor :=
  queuedSchedule ++ .replicate 5 (.group 0) ++ .replicate 10 .waiter ++ .replicate 8 .chef ++
    .replicate 10 .waiter ++ .replicate 10 (.group 0) ++ .replicate 9 .receptionist ++
    .replicate 5 (.group 1) ++ .replicate 10 .waiter ++ .replicate 8 .chef ++
    .replicate 10 .waiter ++ .replicate 10 (.group 1) ++ [.receptionist, .group 1, .group 1]

/-- The state `ackStolenSchedule` leads to. -/
def ackStolenState : State := (run 1 2 initState ackStolenSchedule).getD initState

set_option maxRecDepth 10000 in
/-- **The payment acknowledgement goes to the wrong group.** Group 1 has
left on the `tableDone[0]` token meant for group 0, although its own
`BILLREQ` has not been served: it is still `ATTABLE` at table 0. -/
theorem checkout_ack_stolen :
    Reachable 1 2 ackStolenState ∧ ackStolenState.groupStat 1 = .LEAVING ∧
      ackStolenState.groupRecord 1 = .ATTABLE ∧ ackStolenState.assignedTable 1 = 0 :=
  ⟨Reachable.run_getD (.init initial_initState) (by decide), by decide, by decide, by decide⟩

/-- **What a leaving group's records can be.** A group that has saved
`LEAVING` holds the table it paid for, a real table. Either the
receptionist has served its `BILLREQ`, and the group is `DONE` and
unseated, or it woke on another group's `tableDone` token before that,
and it is still `ATTABLE` at that table. -/
theorem leaving_record (h : Reachable NUMTABLES nGroups s) {g : Nat} (hg : g < nGroups)
    (hl : s.groupStat g = .LEAVING) :
    ∃ t, (s.group g).table? = some t ∧ 0 ≤ t ∧ t < NUMTABLES ∧
      (s.groupRecord g = .ATTABLE ∧ s.assignedTable g = t ∨
        s.groupRecord g = .DONE ∧ s.assignedTable g = -1) := by
  have ph := (seating_reachable h).2.phase g hg
  have h19 : 19 ≤ (s.group g).idx := by
    rw [ph.stat] at hl
    cases hp : s.group g <;> simp [hp, GroupPc.stat, GroupPc.idx] at hl ⊢
  exact (ph.leaving h19).2

set_option maxRecDepth 10000 in
theorem leaving_record_ackStolenState :
    ackStolenState.groupStat 1 = .LEAVING ∧
    ∃ t, (ackStolenState.group 1).table? = some t ∧ 0 ≤ t ∧ t < (1 : Nat) ∧
      (ackStolenState.groupRecord 1 = .ATTABLE ∧ ackStolenState.assignedTable 1 = t ∨
        ackStolenState.groupRecord 1 = .DONE ∧ ackStolenState.assignedTable 1 = -1) :=
  have hl : ackStolenState.groupStat 1 = .LEAVING := by decide
  ⟨hl, leaving_record (Reachable.run_getD (.init initial_initState) (by decide)) (by decide) hl⟩

end Restaurant
