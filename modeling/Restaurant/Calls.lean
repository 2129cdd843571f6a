import Restaurant.Tables
/-!
# Restaurant — the receptionist's two calls

`provideTableOrWaitingRoom` and `receivePayment` as whole calls: the
receptionist's steps from the call's `semDown` of `mutex` to the head of
its loop, run one after the other. Each outcome is stated as the whole
state the call leaves behind, so that what the call does not touch is
part of the statement.

An arriving group gets the lowest free table, or is queued when every
table is taken (`provideTableOrWaitingRoom_seats`). A paying group's
table is freed and handed to the lowest queued group, if there is one
(`receivePayment_hands_over`). The calls' hypotheses hold in every
reachable state where the receptionist is about to make them
(`provideTableOrWaitingRoom_ready`, `receivePayment_ready`).
-/

namespace Restaurant

open State

variable {NUMTABLES nGroups : Nat} {s : State}

/-! ## The choices the scans make -/

/-- No group below `nGroups` sits at table `t`. -/
def TableFree (nGroups : Nat) (assignedTable : Nat → Int) (t : Nat) : Prop :=
  ∀ h, h < nGroups → assignedTable h ≠ t

instance (assignedTable : Nat → Int) (t : Nat) : Decidable (TableFree nGroups assignedTable t) :=
  inferInstanceAs (Decidable (∀ h, h < nGroups → assignedTable h ≠ t))

/-- `t` is the lowest free table below `NUMTABLES`. -/
def LowestFreeTable (NUMTABLES nGroups : Nat) (assignedTable : Nat → Int) (t : Nat) : Prop :=
  t < NUMTABLES ∧ TableFree nGroups assignedTable t ∧
    ∀ t', t' < t → ¬ TableFree nGroups assignedTable t'

/-- `w` is the lowest-numbered queued group below `nGroups`. -/
def LowestWaiting (nGroups : Nat) (groupRecord : Nat → GroupRecord) (w : Nat) : Prop :=
  w < nGroups ∧ groupRecord w = .WAIT ∧ ∀ h, h < w → groupRecord h ≠ .WAIT

section Scans

variable {assignedTable : Nat → Int} {groupRecord : Nat → GroupRecord}

/-- **`decideTableOrWait` takes the lowest free table**, and `-1` when
there is none. -/
theorem scanTables_eq :
    (∃ t, LowestFreeTable NUMTABLES nGroups assignedTable t ∧
        scanTables assignedTable nGroups NUMTABLES 0 = t) ∨
      ((∀ t, t < NUMTABLES → ¬ TableFree nGroups assignedTable t) ∧
        scanTables assignedTable nGroups NUMTABLES 0 = -1) := by
  rcases @scanTables_spec assignedTable nGroups NUMTABLES 0 with
    ⟨e, hall⟩ | ⟨t, e, -, ht, hfree, hmin⟩
  · refine .inr ⟨fun t ht hfree => ?_, e⟩
    obtain ⟨i, hi, e'⟩ := hall t (Nat.zero_le _) (by omega)
    exact hfree i hi e'
  · refine .inl ⟨t, ⟨by omega, hfree, fun t' h' hfree' => ?_⟩, e⟩
    obtain ⟨i, hi, e'⟩ := hmin t' (Nat.zero_le _) h'
    exact hfree' i hi e'

/-- There is at most one lowest free table. -/
theorem LowestFreeTable.unique {t t' : Nat}
    (h : LowestFreeTable NUMTABLES nGroups assignedTable t)
    (h' : LowestFreeTable NUMTABLES nGroups assignedTable t') : t = t' := by
  rcases Nat.lt_trichotomy t t' with hlt | rfl | hlt
  · exact absurd h.2.1 (h'.2.2 t hlt)
  · rfl
  · exact absurd h'.2.1 (h.2.2 t' hlt)

/-- **`decideNextGroup`'s loop takes the lowest queued group**, and
nothing when nobody is queued. -/
theorem scanWaiting_eq :
    (∃ w, LowestWaiting nGroups groupRecord w ∧ scanWaiting groupRecord nGroups 0 = some w) ∨
      ((∀ h, h < nGroups → groupRecord h ≠ .WAIT) ∧
        scanWaiting groupRecord nGroups 0 = none) := by
  rcases @scanWaiting_spec groupRecord nGroups 0 with ⟨e, hall⟩ | ⟨w, e, -, hw, hwait, hmin⟩
  · exact .inr ⟨fun h hh => hall h (Nat.zero_le _) (by omega), e⟩
  · exact .inl ⟨w, ⟨by omega, hwait, fun h hh => hmin h (Nat.zero_le _) hh⟩, e⟩

/-- There is at most one lowest queued group. -/
theorem LowestWaiting.unique {w w' : Nat} (h : LowestWaiting nGroups groupRecord w)
    (h' : LowestWaiting nGroups groupRecord w') : w = w' := by
  rcases Nat.lt_trichotomy w w' with hlt | rfl | hlt
  · exact absurd h.2.1 (h'.2.2 w hlt)
  · rfl
  · exact absurd h'.2.1 (h.2.2 w' hlt)

end Scans

/-! ## Running a call -/

/-- **The seating call's hypotheses hold when it is made**: the group
has asked for a table and has not been seated, and every table value is
`-1` or a table. -/
theorem provideTableOrWaitingRoom_ready (h : Reachable NUMTABLES nGroups s) {g : Nat}
    (hR : s.receptionist = .provideTableOrWaitingRoom g) :
    g < nGroups ∧ (s.groupRecord g).code < 2 ∧ ∀ i, i < nGroups →
      s.assignedTable i = -1 ∨ 0 ≤ s.assignedTable i ∧ s.assignedTable i < NUMTABLES := by
  have hS := (seating_reachable h).2
  obtain ⟨hg, hrec, -⟩ := hS.holds_table (by rw [hR]; rfl)
  exact ⟨hg, by rw [hrec]; decide, fun _ hi => hS.assignedTable_range hi⟩

/-- **The payment call's hypotheses hold when it is made**: the queue
counter and the records agree with the shared state, the paying group
sits at a table, and nobody else sits there. -/
theorem receivePayment_ready (h : Reachable NUMTABLES nGroups s) {g : Nat}
    (hR : s.receptionist = .receivePayment g) :
    s.groupsWaiting = waitingGroups nGroups s ∧
      (∀ i, i < nGroups → (s.groupRecord i = .ATTABLE ↔ s.assignedTable i ≠ -1)) ∧
      g < nGroups ∧ 0 ≤ s.assignedTable g ∧ s.assignedTable g < NUMTABLES ∧
      ∀ i, i < nGroups → i ≠ g → s.assignedTable i ≠ s.assignedTable g := by
  have hS := (seating_reachable h).2
  have hh : s.receptionist.handing = false := by rw [hR]; rfl
  obtain ⟨hg, -, -, -, h0, hT⟩ := hS.holds_bill (by rw [hR]; rfl)
  have hgw : s.groupsWaiting = waitingGroups nGroups s := by
    have := hS.groupsWaiting
    rw [hh, Bool.toNat_false] at this
    omega
  exact ⟨hgw, fun _ hi => hS.attable_iff hh hi, hg, h0, hT,
    fun i hi hne => (hS.exclusive g i hg hi (Ne.symm hne) h0).symm⟩

/-- A `semDown` and a later `semUp` of the same semaphore cancel. -/
theorem update_down_up (f : Sem → Nat) {x y : Sem} (hx : 0 < f x) (hy : y ≠ x) (v : Nat) :
    Function.update (Function.update (Function.update f x (f x - 1)) y v) x (f x - 1 + 1) =
      Function.update f y v := by
  rw [Function.update_comm (Ne.symm hy), Function.update_idem, Nat.sub_add_cancel hx,
    ← Function.update_noteq (Ne.symm hy) v f, Function.update_eq_self]

/-- **Seating an arriving group.** Once the receptionist holds the
group's `TABLEREQ` and may enter its critical section, the call gives
the group the lowest free table, marks it `ATTABLE` and wakes it on
`waitForTable`; with every table taken it queues the group instead,
waking nobody. Nothing else changes but the receptionist's own
variables. -/
theorem provideTableOrWaitingRoom_seats {g : Nat} (hc : (s.groupRecord g).code < 2)
    (hR : s.receptionist = .provideTableOrWaitingRoom g) (hm : 0 < s.sem .mutex) :
    ((∃ t, t < NUMTABLES ∧ TableFree nGroups s.assignedTable t) →
      ∃ t, LowestFreeTable NUMTABLES nGroups s.assignedTable t ∧
        run NUMTABLES nGroups s (.replicate 3 .receptionist) = some
          { s with receptionistStat := .ASSIGNTABLE
                   groupRecord := Function.update s.groupRecord g .ATTABLE
                   assignedTable := Function.update s.assignedTable g t
                   sem := Function.update s.sem (.waitForTable g) (s.sem (.waitForTable g) + 1)
                   receptionist := .waitForGroup
                   receptionistReqs := s.receptionistReqs + 1 }) ∧
    ((∀ t, t < NUMTABLES → ¬ TableFree nGroups s.assignedTable t) →
      run NUMTABLES nGroups s (.replicate 2 .receptionist) = some
        { s with receptionistStat := .ASSIGNTABLE
                 groupsWaiting := s.groupsWaiting + 1
                 groupRecord := Function.update s.groupRecord g .WAIT
                 receptionist := .waitForGroup
                 receptionistReqs := s.receptionistReqs + 1 }) := by
  rcases @scanTables_eq NUMTABLES nGroups s.assignedTable with ⟨t, hlow, e⟩ | ⟨hfull, e⟩
  · refine ⟨fun _ => ⟨t, hlow, ?_⟩, fun hfull => absurd hlow.2.1 (hfull t hlow.1)⟩
    simp [run, step, receptionistStep, hR, down, hm, provideTableOrWaitingRoom,
      decideTableOrWait, hc, e, up, update_down_up _ hm, show ¬ ((t : Int) < 0) by omega]
  · refine ⟨fun ⟨t, ht, hfree⟩ => absurd hfree (hfull t ht), fun _ => ?_⟩
    simp [run, step, receptionistStep, hR, down, hm, provideTableOrWaitingRoom,
      decideTableOrWait, hc, e, up, Nat.sub_add_cancel hm]

/-- One table, two groups: group 0 sits at table 0 and the receptionist
holds group 1's `TABLEREQ`, with every table taken. -/
def fullArrivalState : State := (run 1 2 initState secondArrivalSchedule).getD initState

theorem provideTableOrWaitingRoom_seats_secondArrivalState :
    (∃ t, LowestFreeTable 2 2 secondArrivalState.assignedTable t ∧
      run 2 2 secondArrivalState (.replicate 3 .receptionist) = some
        { secondArrivalState with
          receptionistStat := .ASSIGNTABLE
          groupRecord := Function.update secondArrivalState.groupRecord 1 .ATTABLE
          assignedTable := Function.update secondArrivalState.assignedTable 1 t
          sem := Function.update secondArrivalState.sem (.waitForTable 1)
            (secondArrivalState.sem (.waitForTable 1) + 1)
          receptionist := .waitForGroup
          receptionistReqs := secondArrivalState.receptionistReqs + 1 }) ∧
    run 1 2 fullArrivalState (.replicate 2 .receptionist) = some
      { fullArrivalState with
        receptionistStat := .ASSIGNTABLE
        groupsWaiting := fullArrivalState.groupsWaiting + 1
        groupRecord := Function.update fullArrivalState.groupRecord 1 .WAIT
        receptionist := .waitForGroup
        receptionistReqs := fullArrivalState.receptionistReqs + 1 } := by
  have hR : secondArrivalState.receptionist = .provideTableOrWaitingRoom 1 := by decide
  have hR' : fullArrivalState.receptionist = .provideTableOrWaitingRoom 1 := by decide
  obtain ⟨-, hc, -⟩ := provideTableOrWaitingRoom_ready reachable_secondArrivalState hR
  obtain ⟨-, hc', -⟩ := provideTableOrWaitingRoom_ready
    (Reachable.run_getD (.init initial_initState) (by decide) : Reachable 1 2 fullArrivalState) hR'
  exact ⟨(provideTableOrWaitingRoom_seats hc hR (by decide)).1 ⟨1, by decide, by decide⟩,
    (provideTableOrWaitingRoom_seats hc' hR' (by decide)).2 (by decide)⟩

/-- Marking a group that is not queued `DONE` leaves the queue as it
was. -/
theorem update_done_eq_wait {groupRecord : Nat → GroupRecord} {g : Nat}
    (hg : groupRecord g ≠ .WAIT) (h : Nat) :
    Function.update groupRecord g .DONE h = .WAIT ↔ groupRecord h = .WAIT := by
  by_cases e : h = g
  · subst e; simp [hg]
  · simp [Function.update_noteq e]

/-- **Payment.** Once the receptionist holds a seated group's `BILLREQ`
and may enter its critical section, and the queue counter and the
records agree with the shared state, the call marks the group `DONE`,
frees its table and acknowledges on `tableDone`. With some group
queued, the lowest queued group gets the table, is marked `ATTABLE` and
woken on `waitForTable`, and the counter drops by one; with none the
table stays unassigned. Nothing else changes but the receptionist's own
variables. -/
theorem receivePayment_hands_over {g : Nat} {t : Int}
    (hcount : s.groupsWaiting = waitingGroups nGroups s)
    (hmirror : ∀ h, h < nGroups → (s.groupRecord h = .ATTABLE ↔ s.assignedTable h ≠ -1))
    (hg : g < nGroups) (ht : s.assignedTable g = t) (h0 : 0 ≤ t)
    (hR : s.receptionist = .receivePayment g) (hm : 0 < s.sem .mutex) :
    ((∃ h, h < nGroups ∧ s.groupRecord h = .WAIT) →
      ∃ w, LowestWaiting nGroups s.groupRecord w ∧
        run NUMTABLES nGroups s (.replicate 4 .receptionist) = some
          { s with receptionistStat := .RECVPAY
                   groupsWaiting := s.groupsWaiting - 1
                   groupRecord := Function.update (Function.update s.groupRecord g .DONE) w .ATTABLE
                   assignedTable := Function.update (Function.update s.assignedTable g (-1)) w t
                   sem := Function.update (Function.update s.sem (.waitForTable w)
                     (s.sem (.waitForTable w) + 1)) (.tableDone t) (s.sem (.tableDone t) + 1)
                   receptionist := .waitForGroup
                   receptionistReqs := s.receptionistReqs + 1 }) ∧
    ((∀ h, h < nGroups → s.groupRecord h ≠ .WAIT) →
      run NUMTABLES nGroups s (.replicate 3 .receptionist) = some
        { s with receptionistStat := .RECVPAY
                 groupRecord := Function.update s.groupRecord g .DONE
                 assignedTable := Function.update s.assignedTable g (-1)
                 sem := Function.update s.sem (.tableDone t) (s.sem (.tableDone t) + 1)
                 receptionist := .waitForGroup
                 receptionistReqs := s.receptionistReqs + 1 }) := by
  have hgw : s.groupRecord g ≠ .WAIT := by
    rw [(hmirror g hg).2 (by omega)]; decide
  have hwait := update_done_eq_wait hgw
  rcases @scanWaiting_eq nGroups (Function.update s.groupRecord g .DONE) with
    ⟨w, hw, e⟩ | ⟨hnone, e⟩
  · have hpos : (0 : Int) < s.groupsWaiting := by
      have : 0 < waitingGroups nGroups s :=
        countGroups_pos.2 ⟨w, hw.1, decide_eq_true ((hwait w).1 hw.2.1)⟩
      omega
    refine ⟨fun _ => ⟨w, ?_, ?_⟩, fun hn => absurd ((hwait w).1 hw.2.1) (hn w hw.1)⟩
    · simpa only [LowestWaiting, ne_eq, hwait] using hw
    · simp [run, step, receptionistStep, hR, down, hm, receivePayment, decideNextGroup, e, hpos,
        Int.not_le.2 hpos, ht, up, update_down_up _ hm]
  · have hzero : s.groupsWaiting = 0 := by
      rw [hcount, waitingGroups, countGroups_eq_zero.2 fun h hh => decide_eq_false
        fun hw => hnone h hh ((hwait h).2 hw)]
      rfl
    refine ⟨fun ⟨h, hh, hw⟩ => absurd ((hwait h).2 hw) (hnone h hh), fun _ => ?_⟩
    simp [run, step, receptionistStep, hR, down, hm, receivePayment, hzero, ht, up,
      Nat.sub_add_cancel hm]

set_option maxRecDepth 10000 in
theorem receivePayment_hands_over_payingState :
    ∃ w, LowestWaiting 2 payingState.groupRecord w ∧
      run 1 2 payingState (.replicate 4 .receptionist) = some
        { payingState with
          receptionistStat := .RECVPAY
          groupsWaiting := payingState.groupsWaiting - 1
          groupRecord :=
            Function.update (Function.update payingState.groupRecord 0 .DONE) w .ATTABLE
          assignedTable := Function.update (Function.update payingState.assignedTable 0 (-1)) w
            (payingState.assignedTable 0)
          sem := Function.update (Function.update payingState.sem (.waitForTable w)
            (payingState.sem (.waitForTable w) + 1)) (.tableDone (payingState.assignedTable 0))
            (payingState.sem (.tableDone (payingState.assignedTable 0)) + 1)
          receptionist := .waitForGroup
          receptionistReqs := payingState.receptionistReqs + 1 } := by
  have hR : payingState.receptionist = .receivePayment 0 := by decide
  obtain ⟨hcount, hmirror, hg, h0, -⟩ := receivePayment_ready reachable_payingState hR
  exact (receivePayment_hands_over hcount hmirror hg rfl h0 hR (by decide)).1
    ⟨1, by decide, by decide⟩

end Restaurant
