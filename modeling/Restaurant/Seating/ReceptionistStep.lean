import Restaurant.Seating.GroupStep
/-!
# Restaurant — the receptionist's step keeps its invariant

Most of the receptionist's steps move it between points that wake
nobody and owe the same payment, and touch no group, record or table
(`Seating.of_receptionist`). The others are the mailbox read
(`Seating.read`), the two critical sections, which seat or queue a
group (`Seating.provideTableOrWaitingRoom`) and free a table and hand it
on (`Seating.receivePayment`), and the hand-over's `semUp`
(`Seating.receivePaymentSignal`).
-/

namespace Restaurant

open State

variable {NUMTABLES nGroups : Nat} {s s' : State}

theorem ReceptionistPc.handing_eq_false {r : ReceptionistPc} (h : r.signals = none) :
    r.handing = false := by
  cases r <;> simp_all [signals, handing]

theorem ReceptionistPc.holdsFor_congr {r r' : ReceptionistPc} (h : r'.holds = r.holds) (g : Nat) :
    r'.holdsFor g = r.holdsFor g := by
  simp only [holdsFor, h]

/-- **A receptionist step between points that wake nobody** keeps the
invariant, given the groups' phases after it, if it changes no group,
record, table or mailbox and keeps what the receptionist carries and
owes. -/
theorem Seating.of_receptionist (hS : Seating NUMTABLES nGroups s)
    (hG : s'.group = s.group) (hrec : s'.groupRecord = s.groupRecord)
    (hat : s'.assignedTable = s.assignedTable) (hgw : s'.groupsWaiting = s.groupsWaiting)
    (hreq : s'.receptionistRequest = s.receptionistRequest)
    (hw : s'.ghost.receptionistWrites = s.ghost.receptionistWrites)
    (hr : s'.ghost.receptionistReads = s.ghost.receptionistReads)
    (htd : ∀ t, s'.sem (.tableDone t) + (s'.receptionist.paying t).toNat =
      s.sem (.tableDone t) + (s.receptionist.paying t).toNat)
    (hpend : receptionistPending nGroups s' = receptionistPending nGroups s)
    (hholds : s'.receptionist.holds = s.receptionist.holds)
    (hpay : ∀ p t, s'.receptionist.payment = some (p, t) → s.receptionist.payment = some (p, t))
    (hsig : s'.receptionist.signals = none) (hhand : s.receptionist.handing = false)
    (hphase : ∀ g, g < nGroups → GroupPhase NUMTABLES s' g) (hab : s'.receptionist ≠ .aborted)
    (hserved : s'.receptionistReqs + s'.receptionist.busy.toNat =
      s.receptionistReqs + s.receptionist.busy.toNat)
    (hbnd : s'.receptionistReqs ≤ 2 * nGroups ∧
      (s'.receptionist ≠ .waitForGroup → s'.receptionistReqs < 2 * nGroups)) :
    Seating NUMTABLES nGroups s' := by
  have hwait : waitingGroups nGroups s' = waitingGroups nGroups s := by
    simp only [waitingGroups, hrec]
  constructor
  case mail => rw [hr, hpend, hreq, hw]; exact hS.mail
  case writes => rw [hw, hG]; exact hS.writes
  case writes_lt => rw [hw]; exact hS.writes_lt
  case reads =>
    intro i hi; rw [hr, hrec, ReceptionistPc.holdsFor_congr hholds]; exact hS.reads i hi
  case read_table => rw [hr, hG]; exact hS.read_table
  case read_bill => rw [hr, hG]; exact hS.read_bill
  case phase => exact hphase
  case provide => intro g e; simp [e, ReceptionistPc.signals] at hsig
  case handing => intro p ng t e; simp [e, ReceptionistPc.signals] at hsig
  case paying => intro p t e; rw [hrec, hG]; exact hS.paying p t (hpay p t e)
  case holds_lt => intro r e; rw [hholds] at e; exact hS.holds_lt r e
  case not_aborted => exact hab
  case groupsWaiting =>
    rw [hgw, hwait, ReceptionistPc.handing_eq_false hsig, hS.groupsWaiting, hhand]
  case tablesFull =>
    intro hw0 t hT
    rcases hS.tablesFull (hgw ▸ hw0) t hT with ⟨i, hi, e⟩ | ⟨p, ng, e⟩
    · exact .inl ⟨i, hi, by rw [hat]; exact e⟩
    · simp [e, ReceptionistPc.handing] at hhand
  case exclusive => rw [hat]; exact hS.exclusive
  case tableDone => intro t; have := hS.tableDone t; have := htd t; rw [hG, hrec]; omega
  case served => rw [hr]; have := hS.served; omega
  case bounded => exact hbnd

/-- The common case: nobody is about to be woken before or after, and no
`waitForTable` moves. -/
theorem Seating.quiet (hS : Seating NUMTABLES nGroups s)
    (hG : s'.group = s.group) (hst : s'.groupStat = s.groupStat)
    (hrec : s'.groupRecord = s.groupRecord) (hat : s'.assignedTable = s.assignedTable)
    (hgw : s'.groupsWaiting = s.groupsWaiting)
    (hreq : s'.receptionistRequest = s.receptionistRequest)
    (hw : s'.ghost.receptionistWrites = s.ghost.receptionistWrites)
    (hr : s'.ghost.receptionistReads = s.ghost.receptionistReads)
    (hwft : ∀ i, s'.sem (.waitForTable i) = s.sem (.waitForTable i))
    (htd : ∀ t, s'.sem (.tableDone t) + (s'.receptionist.paying t).toNat =
      s.sem (.tableDone t) + (s.receptionist.paying t).toNat)
    (hpend : receptionistPending nGroups s' = receptionistPending nGroups s)
    (hholds : s'.receptionist.holds = s.receptionist.holds)
    (hpay : ∀ p t, s'.receptionist.payment = some (p, t) → s.receptionist.payment = some (p, t))
    (hsig : s.receptionist.signals = none) (hsig' : s'.receptionist.signals = none)
    (hab : s'.receptionist ≠ .aborted)
    (hserved : s'.receptionistReqs + s'.receptionist.busy.toNat =
      s.receptionistReqs + s.receptionist.busy.toNat)
    (hbnd : s'.receptionistReqs ≤ 2 * nGroups ∧
      (s'.receptionist ≠ .waitForGroup → s'.receptionistReqs < 2 * nGroups)) :
    Seating NUMTABLES nGroups s' :=
  hS.of_receptionist hG hrec hat hgw hreq hw hr htd hpend hholds hpay hsig'
    (ReceptionistPc.handing_eq_false hsig)
    (fun i hi => (hS.phase i hi).congr (by rw [hG]) (by rw [hst]) (by rw [hrec]) (by rw [hat])
      (hwft i) (by rw [hsig, hsig'])) hab hserved hbnd

/-- The invariant does not read `mutex`. -/
theorem Seating.update_mutex (hS : Seating NUMTABLES nGroups s) (v : Nat) :
    Seating NUMTABLES nGroups { s with sem := Function.update s.sem .mutex v } := by
  have hsem : ∀ x, x ≠ .mutex → Function.update s.sem .mutex v x = s.sem x :=
    fun x hx => Function.update_noteq hx _ _
  have hpend : receptionistPending nGroups { s with sem := Function.update s.sem .mutex v } =
      receptionistPending nGroups s := by
    simp only [receptionistPending, hsem _ (show Sem.receptionistReq ≠ .mutex by simp)]
  exact { hS with
    mail := by rw [hpend]; exact hS.mail
    phase := fun g hg => (hS.phase g hg).congr rfl rfl rfl rfl (hsem (.waitForTable g) (by simp))
      Iff.rfl
    tableDone := fun t => by
      simp only [hsem _ (show Sem.tableDone t ≠ .mutex by simp)]; exact hS.tableDone t }

/-! ## Reading the mailbox -/

/-- **Reading the mailbox keeps the invariant**: the value read is the one
pending, and the group that wrote it has since released `mutex`. -/
theorem Seating.read (hT : Tokens nGroups s) (hS : Seating NUMTABLES nGroups s)
    (hp : s.receptionist = .waitForGroupRead) (h0 : 0 < s.sem .mutex) :
    Seating NUMTABLES nGroups
      { s with sem := Function.update s.sem .mutex (s.sem .mutex - 1)
               receptionist := .waitForGroupReadLeave s.receptionistRequest
               ghost := { s.ghost with
                 receptionistReads := s.ghost.receptionistReads ++ [s.receptionistRequest] } } := by
  have hpend1 : receptionistPending nGroups s = 1 := by
    have := receptionistPending_le_one hT
    have : 1 ≤ receptionistPending nGroups s := by
      simp [receptionistPending, hp, ReceptionistPc.reads]
    omega
  have hm := hS.mail
  rw [hpend1, List.replicate_one] at hm
  have hmem : s.receptionistRequest ∈ s.ghost.receptionistWrites := by rw [← hm]; simp
  have hlt := hS.writes_lt _ hmem
  have hin : s.receptionistRequest ∈
      (s.group s.receptionistRequest.reqGroup).receptionistWrites s.receptionistRequest.reqGroup := by
    rw [← hS.writes _ hlt]; simp [hmem]
  have hfree := GroupPc.idx_of_holdsMutex_eq_false ((hT.mutex_free h0).1 _ hlt)
  have hidx := GroupPc.idx_of_mem_receptionistWrites hin
  have hsig : ∀ i, (ReceptionistPc.waitForGroupReadLeave s.receptionistRequest).signals = some i ↔
      s.receptionist.signals = some i := by simp [hp, ReceptionistPc.signals]
  constructor
  case mail =>
    have : receptionistPending nGroups
        { s with sem := Function.update s.sem .mutex (s.sem .mutex - 1)
                 receptionist := .waitForGroupReadLeave s.receptionistRequest } = 0 := by
      revert hpend1
      simp [receptionistPending, hp, ReceptionistPc.reads]
    rw [receptionistPending] at this ⊢
    simp only at this ⊢
    rw [this, List.replicate_zero, List.append_nil, hm]
  case writes => exact hS.writes
  case writes_lt => exact hS.writes_lt
  case reads =>
    intro i hi
    simp only [List.filter_append, hS.reads i hi, ReceptionistPc.holdsFor, ReceptionistPc.holds, hp,
      List.append_assoc, List.append_nil]
    by_cases e : s.receptionistRequest.reqGroup = i <;> simp [e]
  case read_table =>
    intro i hm'
    rcases List.mem_append.1 hm' with hm' | hm'
    · exact hS.read_table i hm'
    · have e := List.mem_singleton.1 hm'
      rw [← e] at hfree hidx
      simp only [reduceCtorEq, false_and, or_false, true_and] at hfree hidx
      show 4 ≤ (s.group i).idx
      omega
  case read_bill =>
    intro i hm'
    rcases List.mem_append.1 hm' with hm' | hm'
    · exact hS.read_bill i hm'
    · have e := List.mem_singleton.1 hm'
      rw [← e] at hfree hidx
      simp only [reduceCtorEq, false_and, false_or, true_and] at hfree hidx
      show 19 ≤ (s.group i).idx
      omega
  case phase =>
    intro i hi
    exact (hS.phase i hi).congr rfl rfl rfl rfl
      (Function.update_noteq (show Sem.waitForTable i ≠ .mutex by simp) (s.sem .mutex - 1) s.sem)
      (hsig i)
  case provide => intro g e; simp at e
  case handing => intro p ng t e; simp at e
  case paying => intro p t e; simp [ReceptionistPc.payment] at e
  case holds_lt => intro r e; simp only [ReceptionistPc.holds, Option.some.injEq] at e; exact e ▸ hlt
  case not_aborted => simp
  case groupsWaiting => rw [hS.groupsWaiting, hp]; rfl
  case tablesFull =>
    intro hw0 t hT'
    rcases hS.tablesFull hw0 t hT' with h | ⟨p, ng, e⟩
    · exact .inl h
    · simp [hp] at e
  case exclusive => exact hS.exclusive
  case tableDone =>
    intro t
    have := hS.tableDone t
    simp only [Function.update_noteq (show Sem.tableDone t ≠ .mutex by simp)]
    simp only [hp, ReceptionistPc.paying, ReceptionistPc.payment] at this ⊢
    exact this
  case served =>
    have := hS.served
    simp only [hp, ReceptionistPc.busy, List.length_append, List.length_singleton,
      Bool.toNat_false, Bool.toNat_true] at this ⊢
    omega
  case bounded =>
    exact ⟨hS.bounded.1, fun _ => hS.bounded.2 (by simp [hp])⟩

/-! ## What the critical sections change -/

/-- A group waiting on `waitForTable` is in no phase but `AtReception`:
its phase holds as soon as that does. -/
theorem GroupPhase.of_atReception {g : Nat} (hpc : s.group g = .checkInWaitTable)
    (hst : s.groupStat g = (s.group g).stat) (hat : AtReception NUMTABLES s g) :
    GroupPhase NUMTABLES s g := by
  have h4 : (s.group g).idx = 4 := by rw [hpc]; rfl
  exact ⟨hst, fun _ => by omega, fun _ => hat, fun h => by omega, fun h => by omega⟩

/-- The paying group's phase once it is marked `DONE` and unseated,
nothing else about it changed: it has left its checkout's critical
section with its table. -/
theorem GroupPhase.paid {g : Nat} {t : Int} (ph : GroupPhase NUMTABLES s g)
    (h19 : 19 ≤ (s.group g).idx) (htab : (s.group g).table? = some t) (h0 : 0 ≤ t)
    (hT : t < NUMTABLES) (hG : s'.group = s.group) (hst : s'.groupStat = s.groupStat)
    (hsem : s'.sem = s.sem) (hrec : s'.groupRecord g = .DONE) (hat : s'.assignedTable g = -1) :
    GroupPhase NUMTABLES s' g := by
  obtain ⟨hw, -⟩ := ph.leaving h19
  refine ⟨by rw [hst, hG]; exact ph.stat, fun h => by rw [hG] at h; omega,
    fun h => by rw [hG] at h; rw [h] at h19; exact absurd h19 (by decide),
    fun _ h => by rw [hG] at h; omega, fun _ => ?_⟩
  rw [hG, hsem, hrec, hat]
  exact ⟨hw, _, htab, h0, hT, .inr ⟨rfl, rfl⟩⟩

/-- **The reads once a request is acted on.** When the receptionist has
acted on the request `q` of group `g` it carried, and carries none, the
new records account for the reads: `g`'s accounts for `q` on top of what
its old record did, and every other group's for what it did. -/
theorem Seating.reads_of_acted (hS : Seating NUMTABLES nGroups s) {g : Nat} {q : Request}
    (hq : s.receptionist.holds = some q) (hqg : q.reqGroup = g) (rec : Nat → GroupRecord)
    (r : ReceptionistPc) (hr : r.holds = none)
    (hg : (rec g).reads g = (s.groupRecord g).reads g ++ [q])
    (hrest : ∀ i, i ≠ g → (rec i).reads i = (s.groupRecord i).reads i) :
    ∀ i, i < nGroups →
      s.ghost.receptionistReads.filter (·.reqGroup == i) = (rec i).reads i ++ r.holdsFor i := by
  intro i hi
  rw [hS.reads i hi]
  simp only [ReceptionistPc.holdsFor, hq, hr, List.append_nil]
  by_cases hig : i = g
  · subst hig; rw [hg, if_pos hqg]
  · rw [hrest i hig, if_neg (by rw [hqg]; exact Ne.symm hig), List.append_nil]

/-- Seating a group at a table nobody holds keeps tables exclusive. -/
theorem exclusive_update_seat {a : Nat → Int}
    (hex : ∀ i j, i < nGroups → j < nGroups → i ≠ j → 0 ≤ a i → a i ≠ a j) {g : Nat} {t : Int}
    (hfree : ∀ i, i < nGroups → a i ≠ t) :
    ∀ i j, i < nGroups → j < nGroups → i ≠ j → 0 ≤ Function.update a g t i →
      Function.update a g t i ≠ Function.update a g t j := by
  intro i j hi hj hij hi0
  by_cases hig : i = g
  · subst hig
    rw [Function.update_same, Function.update_noteq (Ne.symm hij)]
    exact (hfree j hj).symm
  · rw [Function.update_noteq hig] at hi0 ⊢
    by_cases hjg : j = g
    · subst hjg; rw [Function.update_same]; exact hfree i hi
    · rw [Function.update_noteq hjg]; exact hex i j hi hj hij hi0

/-- Freeing a group's table keeps tables exclusive. -/
theorem exclusive_update_free {a : Nat → Int}
    (hex : ∀ i j, i < nGroups → j < nGroups → i ≠ j → 0 ≤ a i → a i ≠ a j) (g : Nat) :
    ∀ i j, i < nGroups → j < nGroups → i ≠ j → 0 ≤ Function.update a g (-1) i →
      Function.update a g (-1) i ≠ Function.update a g (-1) j := by
  intro i j hi hj hij hi0
  by_cases hig : i = g
  · subst hig; simp at hi0
  · rw [Function.update_noteq hig] at hi0 ⊢
    by_cases hjg : j = g
    · subst hjg; rw [Function.update_same]; omega
    · rw [Function.update_noteq hjg]; exact hex i j hi hj hij hi0

/-- A queued group waits on `waitForTable`, unseated and with no token. -/
theorem Seating.queued (hS : Seating NUMTABLES nGroups s) {g : Nat} (hg : g < nGroups)
    (hw : s.groupRecord g = .WAIT) :
    s.group g = .checkInWaitTable ∧ s.assignedTable g = -1 ∧ s.sem (.waitForTable g) = 0 := by
  have h4 := hS.idx_le_four hg (.inr hw)
  have ph := hS.phase g hg
  have hpc : s.group g = .checkInWaitTable := by
    rcases Nat.lt_or_ge (s.group g).idx 4 with h | h
    · simp [(ph.arriving (by omega)).1] at hw
    · exact GroupPc.eq_checkInWaitTable (by omega)
  rcases ph.atReception hpc with ⟨e, -⟩ | ⟨-, h1, h2, -⟩ | ⟨e, -⟩ | ⟨e, -⟩
  · rw [hw] at e; cases e
  · exact ⟨hpc, h1, h2⟩
  all_goals rw [hw] at e; cases e

/-! ## Seating or queueing a group -/

/-- A record change between two phases that are not `DONE` moves no
checkout token. -/
theorem doneCount_update {s : State} {g : Nat} {r : GroupRecord} (hr : s.groupRecord g ≠ .DONE)
    (hr' : r ≠ .DONE) (t : Int) :
    countGroups nGroups (fun i => decide (Function.update s.groupRecord g r i = .DONE ∧
      (s.group i).table? = some t)) =
    countGroups nGroups fun i => decide (s.groupRecord i = .DONE ∧ (s.group i).table? = some t) := by
  refine countGroups_congr fun i _ => ?_
  by_cases hi : i = g
  · subst hi; simp [hr, hr']
  · rw [Function.update_noteq hi]

/-- **`provideTableOrWaitingRoom` keeps the invariant**: the group whose
`TABLEREQ` is served is seated at a free table, or queued when there is
none. -/
theorem Seating.provideTableOrWaitingRoom {g : Nat} (hS : Seating NUMTABLES nGroups s)
    (hp : s.receptionist = .provideTableOrWaitingRoom g) :
    Seating NUMTABLES nGroups (provideTableOrWaitingRoom NUMTABLES nGroups s g) := by
  obtain ⟨hg, hrec, hpc, hat⟩ := hS.holds_table (by rw [hp]; rfl)
  have hc : (s.groupRecord g).code < 2 := by rw [hrec]; decide
  have hw0 : s.sem (.waitForTable g) = 0 := by
    rcases (hS.phase g hg).atReception hpc with ⟨-, -, h, -⟩ | ⟨e, -⟩ | ⟨e, -⟩ | ⟨e, -⟩ <;> simp_all
  have hmail := hS.mail
  simp only [receptionistPending, hp] at hmail
  have hbusy := hS.served
  rw [hp] at hbusy
  have hbnd : s.receptionistReqs < 2 * nGroups := hS.bounded.2 (by simp [hp])
  have hreads := hS.reads_of_acted (g := g) (by rw [hp]; rfl) rfl
  have htd : ∀ r : GroupRecord, r ≠ .DONE → ∀ t, s.sem (.tableDone t) +
      countGroups nGroups (fun i => decide (20 ≤ (s.group i).idx ∧ (s.group i).table? = some t)) =
      countGroups nGroups fun i => decide (Function.update s.groupRecord g r i = .DONE ∧
        (s.group i).table? = some t) := fun r hr t => by
    have := hS.tableDone t
    simp only [hp, ReceptionistPc.paying, ReceptionistPc.payment] at this
    rw [doneCount_update (by simp [hrec]) hr t]
    exact this
  rcases @scanTables_spec s.assignedTable nGroups NUMTABLES 0 with
    ⟨ht, hall⟩ | ⟨t, ht, -, htT, hfree, -⟩
  · -- no free table: the group is queued
    rw [provideTableOrWaitingRoom_of_lt hc (by rw [ht]; decide)]
    have hwait : countGroups nGroups (fun i => decide (Function.update s.groupRecord g .WAIT i = .WAIT)) =
        waitingGroups nGroups s + 1 := by
      have := countGroups_update (p := fun i => decide (s.groupRecord i = .WAIT))
        (q := fun i => decide (Function.update s.groupRecord g .WAIT i = .WAIT)) hg
        fun i hi => by simp only [Function.update_noteq hi]
      simp [hrec] at this
      exact this
    constructor
    case mail => simp only [receptionistPending]; exact hmail
    case writes => exact hS.writes
    case writes_lt => exact hS.writes_lt
    case reads =>
      exact hreads _ .provideTableLeave rfl (by simp [hrec, GroupRecord.reads])
        fun i hi => by dsimp only; rw [Function.update_noteq hi]
    case read_table => exact hS.read_table
    case read_bill => exact hS.read_bill
    case phase =>
      intro i hi
      by_cases hig : i = g
      · subst hig
        exact GroupPhase.of_atReception hpc (hS.phase i hi).stat
          (.inr (.inl ⟨by simp, hat, hw0, by simp [ReceptionistPc.signals]⟩))
      · exact (hS.phase i hi).congr rfl rfl (Function.update_noteq hig _ _) rfl rfl
          (by simp [hp, ReceptionistPc.signals])
    case provide => intro _ e; cases e
    case handing => intro _ _ _ e; cases e
    case paying => intro _ _ e; cases e
    case holds_lt => intro _ e; cases e
    case not_aborted => intro e; cases e
    case groupsWaiting =>
      have := hS.groupsWaiting
      simp only [waitingGroups, hwait, hp, ReceptionistPc.handing, Bool.toNat_false] at this ⊢
      omega
    case tablesFull =>
      intro _ t hT
      obtain ⟨i, hi, e⟩ := hall t (Nat.zero_le _) (by omega)
      exact .inl ⟨i, hi, e⟩
    case exclusive => exact hS.exclusive
    case tableDone => exact htd _ (by simp)
    case served => simpa [ReceptionistPc.busy] using hbusy
    case bounded => exact ⟨hS.bounded.1, fun _ => hbnd⟩
  · -- table `t` is free: the group is seated there
    rw [provideTableOrWaitingRoom_of_le hc (by rw [ht]; omega), ht]
    have hwait : countGroups nGroups (fun i => decide (Function.update s.groupRecord g .ATTABLE i = .WAIT)) =
        waitingGroups nGroups s := by
      refine countGroups_congr fun i _ => ?_
      by_cases hig : i = g
      · subst hig; simp [hrec]
      · simp [Function.update_noteq hig]
    constructor
    case mail => simp only [receptionistPending]; exact hmail
    case writes => exact hS.writes
    case writes_lt => exact hS.writes_lt
    case reads =>
      exact hreads _ (.provideTableSignal g) rfl (by simp [hrec, GroupRecord.reads])
        fun i hi => by dsimp only; rw [Function.update_noteq hi]
    case read_table => exact hS.read_table
    case read_bill => exact hS.read_bill
    case phase =>
      intro i hi
      by_cases hig : i = g
      · subst hig
        exact GroupPhase.of_atReception hpc (hS.phase i hi).stat (.inr (.inr (.inr ⟨by simp, hw0, rfl⟩)))
      · exact (hS.phase i hi).congr rfl rfl (Function.update_noteq hig _ _)
          (Function.update_noteq hig _ _) rfl
          (by simp [hp, ReceptionistPc.signals, Ne.symm hig])
    case provide =>
      intro i e
      cases e
      refine ⟨hg, hpc, ?_, ?_⟩ <;> dsimp only <;> rw [Function.update_same] <;> omega
    case handing => intro _ _ _ e; cases e
    case paying => intro _ _ e; cases e
    case holds_lt => intro _ e; cases e
    case not_aborted => intro e; cases e
    case groupsWaiting =>
      have := hS.groupsWaiting
      simp only [waitingGroups, hwait, hp, ReceptionistPc.handing] at this ⊢
      exact this
    case tablesFull =>
      intro hw t' _
      rcases hS.tablesFull hw t (by omega) with ⟨i, hi, e⟩ | ⟨p, ng, e⟩
      · exact absurd e (hfree i hi)
      · simp [hp] at e
    case exclusive => exact exclusive_update_seat hS.exclusive hfree
    case tableDone => exact htd _ (by simp)
    case served => simpa [ReceptionistPc.busy] using hbusy
    case bounded => exact ⟨hS.bounded.1, fun _ => hbnd⟩

/-! ## Freeing a table and handing it on -/

/-- Paying for group `g` adds it to those paid for at its table. -/
theorem doneCount_pay {s : State} {g : Nat} (hg : g < nGroups) (hr : s.groupRecord g ≠ .DONE)
    {t : Int} (ht : (s.group g).table? = some t) (t' : Int) :
    countGroups nGroups (fun i => decide (Function.update s.groupRecord g .DONE i = .DONE ∧
      (s.group i).table? = some t')) =
    countGroups nGroups (fun i => decide (s.groupRecord i = .DONE ∧ (s.group i).table? = some t')) +
      (decide (t = t')).toNat := by
  have := countGroups_update (p := fun i => decide (s.groupRecord i = .DONE ∧ (s.group i).table? = some t'))
    (q := fun i => decide (Function.update s.groupRecord g .DONE i = .DONE ∧
      (s.group i).table? = some t')) hg fun i hi => by simp only [Function.update_noteq hi]
  simp only [hr, false_and, decide_False, Bool.toNat_false, Nat.add_zero, Function.update_same,
    ht, Option.some.injEq, true_and] at this
  exact this

/-- **The checkout tokens once `g` has paid**: `g` counts among the
groups paid for at its table, and the receptionist owes that table's
token. -/
theorem Seating.tableDone_paid (hS : Seating NUMTABLES nGroups s) {g : Nat}
    (hp : s.receptionist = .receivePayment g) (hg : g < nGroups) (hrec : s.groupRecord g = .ATTABLE)
    (htab : (s.group g).table? = some (s.assignedTable g)) (rec : Nat → GroupRecord)
    {r : ReceptionistPc}
    (hrec' : ∀ t', countGroups nGroups (fun i => decide (rec i = .DONE ∧ (s.group i).table? = some t')) =
      countGroups nGroups (fun i => decide (Function.update s.groupRecord g .DONE i = .DONE ∧
        (s.group i).table? = some t')))
    (hpay : r.payment = some (g, s.assignedTable g)) (t' : Int) :
    s.sem (.tableDone t') +
      countGroups nGroups (fun i => decide (20 ≤ (s.group i).idx ∧ (s.group i).table? = some t')) +
      (r.paying t').toNat =
    countGroups nGroups fun i => decide (rec i = .DONE ∧ (s.group i).table? = some t') := by
  have := hS.tableDone t'
  have hpr : (r.paying t').toNat = (decide (s.assignedTable g = t')).toNat := by
    simp only [ReceptionistPc.paying, hpay]
    by_cases e : s.assignedTable g = t' <;> simp [e]
  have h0 : ((ReceptionistPc.receivePayment g).paying t').toNat = 0 := rfl
  rw [hp, h0] at this
  rw [hrec', doneCount_pay hg (by simp [hrec]) htab t', hpr]
  omega

/-- **`receivePayment` keeps the invariant**: the paying group is done and
unseated, the table's checkout token is owed, and the table is handed to
the lowest waiting group if there is one. -/
theorem Seating.receivePayment {g : Nat} (hS : Seating NUMTABLES nGroups s)
    (hp : s.receptionist = .receivePayment g) :
    Seating NUMTABLES nGroups (receivePayment nGroups s g) := by
  obtain ⟨hg, hrec, h19, htab, h0, hT⟩ := hS.holds_bill (by rw [hp]; rfl)
  have hmail := hS.mail
  simp only [receptionistPending, hp] at hmail
  have hbusy := hS.served
  rw [hp] at hbusy
  have hbnd : s.receptionistReqs < 2 * nGroups := hS.bounded.2 (by simp [hp])
  have hgw := hS.groupsWaiting
  simp only [hp, ReceptionistPc.handing, Bool.toNat_false] at hgw
  have hreads := hS.reads_of_acted (g := g) (by rw [hp]; rfl) rfl
  rcases @scanWaiting_spec (Function.update s.groupRecord g .DONE) nGroups 0 with
    ⟨hn, hnone⟩ | ⟨ng, hn, -, hng, hwt, -⟩
  · -- nobody waits: the table stays free
    have hw0 : waitingGroups nGroups s = 0 := countGroups_eq_zero.2 fun i hi => by
      by_cases hig : i = g
      · subst hig; simp [hrec]
      · have := hnone i (Nat.zero_le _) (by omega); rw [Function.update_noteq hig] at this; simpa using this
    rw [receivePayment_of_none (.inr hn)]
    constructor
    case mail => simp only [receptionistPending]; exact hmail
    case writes => exact hS.writes
    case writes_lt => exact hS.writes_lt
    case reads =>
      exact hreads _ _ rfl (by simp [hrec, GroupRecord.reads])
        fun i hi => by dsimp only; rw [Function.update_noteq hi]
    case read_table => exact hS.read_table
    case read_bill => exact hS.read_bill
    case phase =>
      intro i hi
      by_cases hig : i = g
      · subst hig; exact (hS.phase _ hi).paid h19 htab h0 hT rfl rfl rfl (by simp) (by simp)
      · exact (hS.phase i hi).congr rfl rfl (Function.update_noteq hig _ _)
          (Function.update_noteq hig _ _) rfl (by simp [hp, ReceptionistPc.signals])
    case provide => intro _ e; cases e
    case handing => intro _ _ _ e; cases e
    case paying =>
      intro p t e
      simp only [ReceptionistPc.payment, Option.some.injEq, Prod.mk.injEq] at e
      obtain ⟨rfl, rfl⟩ := e
      exact ⟨hg, by simp, htab, h19⟩
    case holds_lt => intro _ e; cases e
    case not_aborted => intro e; cases e
    case groupsWaiting =>
      have hw' : waitingGroups nGroups
          { s with groupRecord := Function.update s.groupRecord g .DONE } = 0 :=
        countGroups_eq_zero.2 fun i hi => by simpa using hnone i (Nat.zero_le _) (by omega)
      rw [hw0] at hgw
      simp only [waitingGroups] at hw' ⊢
      rw [hw', hgw]; rfl
    case tablesFull =>
      intro hw
      rw [hw0] at hgw
      dsimp only at hw
      omega
    case exclusive => exact exclusive_update_free hS.exclusive g
    case tableDone => exact hS.tableDone_paid hp hg hrec htab _ (fun _ => rfl) rfl
    case served => simpa [ReceptionistPc.busy] using hbusy
    case bounded => exact ⟨hS.bounded.1, fun _ => hbnd⟩
  · -- `ng` waits: it gets the table
    rw [Nat.zero_add] at hng
    have hngg : ng ≠ g := fun e => by subst e; simp at hwt
    rw [Function.update_noteq hngg] at hwt
    have hpos : (0 : Int) < s.groupsWaiting := by
      have : 0 < waitingGroups nGroups s := countGroups_pos.2 ⟨ng, hng, by simp [hwt]⟩
      omega
    obtain ⟨hpcng, hatng, hwng⟩ := hS.queued hng hwt
    rw [receivePayment_of_some hpos hn]
    have hwait : countGroups nGroups (fun i => decide (Function.update
        (Function.update s.groupRecord g .DONE) ng .ATTABLE i = .WAIT)) + 1 =
        waitingGroups nGroups s := by
      have := countGroups_update (p := fun i => decide (s.groupRecord i = .WAIT))
        (q := fun i => decide (Function.update (Function.update s.groupRecord g .DONE) ng .ATTABLE i
          = .WAIT)) hng fun i hi => by
          by_cases hig : i = g
          · subst hig; simp [Function.update_noteq (Ne.symm hngg), hrec]
          · simp only [Function.update_noteq hi, Function.update_noteq hig]
      simp only [Function.update_same, hwt] at this
      simpa [waitingGroups] using this
    have hdone : ∀ t', countGroups nGroups (fun i => decide (Function.update
        (Function.update s.groupRecord g .DONE) ng .ATTABLE i = .DONE ∧
          (s.group i).table? = some t')) =
        countGroups nGroups (fun i => decide (Function.update s.groupRecord g .DONE i = .DONE ∧
          (s.group i).table? = some t')) := fun t' => countGroups_congr fun i _ => by
      by_cases hi : i = ng
      · subst hi; simp [Function.update_noteq hngg, hwt]
      · rw [Function.update_noteq hi]
    constructor
    case mail => simp only [receptionistPending]; exact hmail
    case writes => exact hS.writes
    case writes_lt => exact hS.writes_lt
    case reads =>
      refine hreads _ _ rfl (by simp [Function.update_noteq (Ne.symm hngg), hrec, GroupRecord.reads])
        fun i hi => ?_
      dsimp only
      by_cases hin : i = ng
      · subst hin; simp [hwt, GroupRecord.reads]
      · rw [Function.update_noteq hin, Function.update_noteq hi]
    case read_table => exact hS.read_table
    case read_bill => exact hS.read_bill
    case phase =>
      intro i hi
      by_cases hig : i = g
      · subst hig
        exact (hS.phase _ hi).paid h19 htab h0 hT rfl rfl rfl (by simp [Function.update_noteq (Ne.symm hngg)]) (by simp)
      · by_cases hin : i = ng
        · subst hin
          exact GroupPhase.of_atReception hpcng (hS.phase i hi).stat
            (.inr (.inr (.inr ⟨by simp, hwng, rfl⟩)))
        · exact (hS.phase i hi).congr rfl rfl
            (by simp [Function.update_noteq hin, Function.update_noteq hig])
            (Function.update_noteq hig _ _) rfl
            (by simp [hp, ReceptionistPc.signals, Ne.symm hin])
    case provide => intro _ e; cases e
    case handing =>
      intro p ng' t e
      simp only [ReceptionistPc.receivePaymentSignal.injEq] at e
      obtain ⟨rfl, rfl, rfl⟩ := e
      refine ⟨hng, hpcng, by simp [Function.update_noteq hngg, hatng], h0, hT, fun i hi => ?_⟩
      by_cases hig : i = g
      · subst hig; simp; omega
      · simp only [Function.update_noteq hig]
        exact (hS.exclusive g i hg hi (Ne.symm hig) h0).symm
    case paying =>
      intro p t e
      simp only [ReceptionistPc.payment, Option.some.injEq, Prod.mk.injEq] at e
      obtain ⟨rfl, rfl⟩ := e
      exact ⟨hg, by simp [Function.update_noteq (Ne.symm hngg)], htab, h19⟩
    case holds_lt => intro _ e; cases e
    case not_aborted => intro e; cases e
    case groupsWaiting =>
      simp only [waitingGroups, ReceptionistPc.handing, Bool.toNat_true]
      omega
    case tablesFull =>
      intro hw t' ht'
      by_cases e : (t' : Int) = s.assignedTable g
      · exact .inr ⟨g, ng, by rw [e]⟩
      · rcases hS.tablesFull hpos t' ht' with
          ⟨i, hi, ei⟩ | ⟨p, ng', ei⟩
        · have hig : i ≠ g := fun h => e (h ▸ ei.symm)
          exact .inl ⟨i, hi, by simp only [Function.update_noteq hig]; exact ei⟩
        · simp [hp] at ei
    case exclusive => exact exclusive_update_free hS.exclusive g
    case tableDone => exact hS.tableDone_paid hp hg hrec htab _ hdone rfl
    case served => simpa [ReceptionistPc.busy] using hbusy
    case bounded => exact ⟨hS.bounded.1, fun _ => hbnd⟩

/-- **Handing a freed table over keeps the invariant**: the chosen group
gets the table, which nobody holds, and its token. -/
theorem Seating.receivePaymentSignal {p ng : Nat} {t : Int} (hS : Seating NUMTABLES nGroups s)
    (hp : s.receptionist = .receivePaymentSignal p ng t) :
    Seating NUMTABLES nGroups
      { s.up (.waitForTable ng) with
          groupsWaiting := s.groupsWaiting - 1
          assignedTable := Function.update s.assignedTable ng t
          receptionist := .receivePaymentLeave p t } := by
  obtain ⟨hng, hpc, hat, h0, hT, hfree⟩ := hS.handing p ng t hp
  have hidx : (s.group ng).idx = 4 := by rw [hpc]; rfl
  have hw0 := hS.waitForTable_eq_zero hng hpc (by rw [hp]; rfl)
  have hrec : s.groupRecord ng = .ATTABLE := by
    rcases (hS.phase ng hng).atReception hpc with ⟨-, -, -, e⟩ | ⟨-, -, -, e⟩ | ⟨-, -, -, -, e⟩ | ⟨e, -⟩
    all_goals first | exact e | exact absurd (by rw [hp]; rfl) e
  have hsem : ∀ x, x ≠ .waitForTable ng → (s.up (.waitForTable ng)).sem x = s.sem x :=
    fun x hx => up_sem_of_ne s hx
  have hmail := hS.mail
  simp only [receptionistPending, hp] at hmail
  constructor
  case mail =>
    simp only [receptionistPending, hsem _ (show Sem.receptionistReq ≠ .waitForTable ng by simp)]
    exact hmail
  case writes => exact hS.writes
  case writes_lt => exact hS.writes_lt
  case reads => intro i hi; have := hS.reads i hi; rw [hp] at this; exact this
  case read_table => exact hS.read_table
  case read_bill => exact hS.read_bill
  case phase =>
    intro i hi
    by_cases hin : i = ng
    · subst hin
      exact GroupPhase.of_atReception hpc (hS.phase i hi).stat
        (.inr (.inr (.inl ⟨hrec, by simp [h0], by simp [hT], by simp [up, hw0],
          by simp [ReceptionistPc.signals]⟩)))
    · exact (hS.phase i hi).congr rfl rfl rfl (Function.update_noteq hin _ _)
        (hsem _ (by simp [hin])) (by simp [hp, ReceptionistPc.signals, Ne.symm hin])
  case provide => intro _ e; cases e
  case handing => intro _ _ _ e; cases e
  case paying => intro p' t' e; exact hS.paying p' t' (by rw [hp]; exact e)
  case holds_lt => intro _ e; cases e
  case not_aborted => intro e; cases e
  case groupsWaiting =>
    have := hS.groupsWaiting
    simp only [hp, ReceptionistPc.handing, Bool.toNat_true] at this
    simp only [waitingGroups, up, ReceptionistPc.handing, Bool.toNat_false] at this ⊢
    omega
  case tablesFull =>
    intro hw t' ht'
    by_cases e : (t' : Int) = t
    · exact .inl ⟨ng, hng, by simp [e]⟩
    · rcases hS.tablesFull (by dsimp only [up] at hw; omega) t' ht' with ⟨i, hi, ei⟩ | ⟨p', ng', ei⟩
      · have hin : i ≠ ng := fun h => by subst h; rw [hat] at ei; omega
        exact .inl ⟨i, hi, by simp only [Function.update_noteq hin]; exact ei⟩
      · rw [hp] at ei; cases ei; exact absurd rfl e
  case exclusive => exact exclusive_update_seat hS.exclusive hfree
  case tableDone =>
    intro t'
    have := hS.tableDone t'
    rw [hp] at this
    simp only [hsem _ (show Sem.tableDone t' ≠ .waitForTable ng by simp)]
    exact this
  case served => have := hS.served; rw [hp] at this; exact this
  case bounded => exact ⟨hS.bounded.1, fun _ => hS.bounded.2 (by simp [hp])⟩

/-- **Signalling a seated group keeps the invariant**: its token is on
`waitForTable` now. -/
theorem Seating.provideTableSignal {g : Nat} (hS : Seating NUMTABLES nGroups s)
    (hp : s.receptionist = .provideTableSignal g) :
    Seating NUMTABLES nGroups { s.up (.waitForTable g) with receptionist := .provideTableLeave } := by
  obtain ⟨hg, hpc, h0, hT⟩ := hS.provide g hp
  have hw0 := hS.waitForTable_eq_zero hg hpc (by rw [hp]; rfl)
  have hrec : s.groupRecord g = .ATTABLE := by
    rcases (hS.phase g hg).atReception hpc with ⟨-, -, -, e⟩ | ⟨-, -, -, e⟩ | ⟨-, -, -, -, e⟩ | ⟨e, -⟩
    all_goals first | exact e | exact absurd (by rw [hp]; rfl) e
  refine hS.of_receptionist rfl rfl rfl rfl rfl rfl rfl (fun t => ?_) ?_ (by rw [hp]; rfl)
    (fun _ _ e => by cases e) rfl (by rw [hp]; rfl) (fun i hi => ?_) (by simp) (by rw [hp]; rfl)
    ⟨hS.bounded.1, fun _ => hS.bounded.2 (by simp [hp])⟩
  · rw [hp, up_sem_of_ne _ (by simp)]; rfl
  · simp only [receptionistPending, hp, up_sem_of_ne _ (show Sem.receptionistReq ≠ .waitForTable g by simp)]
    rfl
  · by_cases hig : i = g
    · subst hig
      exact GroupPhase.of_atReception hpc (hS.phase i hi).stat
        (.inr (.inr (.inl ⟨hrec, h0, hT, by simp [up, hw0], by simp [ReceptionistPc.signals]⟩)))
    · exact (hS.phase i hi).congr rfl rfl rfl rfl (up_sem_of_ne _ (by simp [hig]))
        (by simp [hp, ReceptionistPc.signals, Ne.symm hig])

/-! ## The receptionist's step -/

/-- **Every step of the receptionist keeps its invariant.** -/
theorem Seating.receptionistStep (hT : Tokens nGroups s) (hS : Seating NUMTABLES nGroups s)
    (h : receptionistStep NUMTABLES nGroups s = some s') : Seating NUMTABLES nGroups s' := by
  have hbnd := hS.bounded
  have hserved := hS.served
  cases hp : s.receptionist with
  | waitForGroup =>
    simp only [Restaurant.receptionistStep, hp] at h
    split at h
    · simp only [Option.map_eq_some', down_eq_some] at h
      obtain ⟨_, ⟨-, rfl⟩, rfl⟩ := h
      exact (hS.update_mutex (s.sem .mutex - 1)).quiet rfl rfl rfl rfl rfl rfl rfl rfl (fun _ => rfl)
        (fun _ => by rw [hp]; rfl) (by simp only [receptionistPending, hp]; rfl) (by rw [hp]; rfl)
        (fun _ _ e => by cases e) (by rw [hp]; rfl) rfl (by simp) (by rw [hp]; rfl)
        ⟨by dsimp only; omega, fun _ => by dsimp only; omega⟩
    · cases h
  | waitForGroupLeave =>
    simp only [Restaurant.receptionistStep, hp, Option.some.injEq] at h
    subst h
    exact (hS.update_mutex (s.sem .mutex + 1)).quiet rfl rfl rfl rfl rfl rfl rfl rfl (fun _ => rfl)
      (fun _ => by rw [hp]; rfl) (by simp only [receptionistPending, hp]; rfl) (by rw [hp]; rfl)
      (fun _ _ e => by cases e) (by rw [hp]; rfl) rfl (by simp) (by rw [hp]; rfl)
      ⟨hbnd.1, fun _ => hbnd.2 (by simp [hp])⟩
  | waitForGroupWait =>
    simp only [Restaurant.receptionistStep, hp, Option.map_eq_some', down_eq_some] at h
    obtain ⟨_, ⟨h0, rfl⟩, rfl⟩ := h
    exact hS.quiet rfl rfl rfl rfl rfl rfl rfl rfl (fun _ => by simp)
      (fun t => by simp [hp, ReceptionistPc.paying, ReceptionistPc.payment])
      (by simp only [receptionistPending, hp, Function.update_same]
          simp only [ReceptionistPc.reads, Bool.toNat_true, Bool.toNat_false]; omega)
      (by rw [hp]; rfl) (fun _ _ e => by cases e) (by rw [hp]; rfl) rfl (by simp) (by rw [hp]; rfl)
      ⟨hbnd.1, fun _ => hbnd.2 (by simp [hp])⟩
  | waitForGroupRead =>
    simp only [Restaurant.receptionistStep, hp, Option.map_eq_some', down_eq_some] at h
    obtain ⟨_, ⟨h0, rfl⟩, rfl⟩ := h
    exact hS.read hT hp h0
  | waitForGroupReadLeave req =>
    simp only [Restaurant.receptionistStep, hp, Option.some.injEq] at h
    subst h
    exact (hS.update_mutex (s.sem .mutex + 1)).quiet rfl rfl rfl rfl rfl rfl rfl rfl (fun _ => rfl)
      (fun _ => by rw [hp]; rfl) (by simp only [receptionistPending, hp]; rfl) (by rw [hp]; rfl)
      (fun _ _ e => by cases e) (by rw [hp]; rfl) rfl (by simp) (by rw [hp]; rfl)
      ⟨hbnd.1, fun _ => hbnd.2 (by simp [hp])⟩
  | waitForGroupRelease req =>
    have hk := hS.holds_kind (r := req) (by rw [hp]; rfl)
    simp only [Restaurant.receptionistStep, hp] at h
    have hq : ∀ r : ReceptionistPc, r.holds = some req → r.reads = false → r.payment = none →
        r.signals = none → r.busy = true → r ≠ .aborted →
        Seating NUMTABLES nGroups { s.up .receptionistRequestPossible with receptionist := r } :=
      fun r hr hrd hpay hsig hb hab => hS.quiet rfl rfl rfl rfl rfl rfl rfl rfl
        (fun i => up_sem_of_ne _ (show Sem.waitForTable i ≠ .receptionistRequestPossible by simp))
        (fun t => by
          rw [up_sem_of_ne _ (show Sem.tableDone t ≠ .receptionistRequestPossible by simp), hp, show r.paying t = false by simp only [ReceptionistPc.paying, hpay]]
          rfl)
        (by simp only [receptionistPending, hp, hrd, up_sem_of_ne _ (show Sem.receptionistReq ≠
          .receptionistRequestPossible by simp)]; rfl)
        (by rw [hr, hp]; rfl) (fun _ _ e => by rw [hpay] at e; cases e)
        (by rw [hp]; rfl) hsig hab (by rw [hp, hb]; rfl) ⟨hbnd.1, fun _ => hbnd.2 (by simp [hp])⟩
    rcases hk with e | e <;> rw [e] at h <;> simp only [Option.some.injEq] at h <;> subst h
    · exact hq _ (by rw [e]; rfl) rfl rfl rfl rfl (by simp)
    · exact hq _ (by rw [e]; rfl) rfl rfl rfl rfl (by simp)
  | provideTableOrWaitingRoom g =>
    simp only [Restaurant.receptionistStep, hp, Option.map_eq_some', down_eq_some] at h
    obtain ⟨_, ⟨-, rfl⟩, rfl⟩ := h
    exact (hS.update_mutex (s.sem .mutex - 1)).provideTableOrWaitingRoom hp
  | provideTableSignal g =>
    simp only [Restaurant.receptionistStep, hp, Option.some.injEq] at h
    subst h
    exact hS.provideTableSignal hp
  | provideTableLeave =>
    simp only [Restaurant.receptionistStep, hp, Option.some.injEq] at h
    subst h
    have := hbnd.2 (by simp [hp])
    exact (hS.update_mutex (s.sem .mutex + 1)).quiet rfl rfl rfl rfl rfl rfl rfl rfl (fun _ => rfl)
      (fun _ => by rw [hp]; rfl) (by simp only [receptionistPending, hp]; rfl) (by rw [hp]; rfl)
      (fun _ _ e => by cases e) (by rw [hp]; rfl) rfl (by simp)
      (by rw [hp]; simp [ReceptionistPc.busy]) ⟨by simp; omega, fun e => absurd rfl e⟩
  | receivePayment g =>
    simp only [Restaurant.receptionistStep, hp, Option.map_eq_some', down_eq_some] at h
    obtain ⟨_, ⟨-, rfl⟩, rfl⟩ := h
    exact (hS.update_mutex (s.sem .mutex - 1)).receivePayment hp
  | receivePaymentSignal p ng t =>
    simp only [Restaurant.receptionistStep, hp, Option.some.injEq] at h
    subst h
    exact hS.receivePaymentSignal hp
  | receivePaymentLeave p t =>
    simp only [Restaurant.receptionistStep, hp, Option.some.injEq] at h
    subst h
    exact (hS.update_mutex (s.sem .mutex + 1)).quiet rfl rfl rfl rfl rfl rfl rfl rfl (fun _ => rfl)
      (fun _ => by rw [hp]; rfl) (by simp only [receptionistPending, hp]; rfl) (by rw [hp]; rfl)
      (fun _ _ e => by rw [hp]; exact e) (by rw [hp]; rfl) rfl (by simp) (by rw [hp]; rfl)
      ⟨hbnd.1, fun _ => hbnd.2 (by simp [hp])⟩
  | receivePaymentDone p t =>
    simp only [Restaurant.receptionistStep, hp, Option.some.injEq] at h
    subst h
    have := hbnd.2 (by simp [hp])
    refine hS.quiet rfl rfl rfl rfl rfl rfl rfl rfl
      (fun i => up_sem_of_ne _ (show Sem.waitForTable i ≠ .tableDone t by simp)) (fun t' => ?_)
      (by simp only [receptionistPending, hp, up_sem_of_ne _ (show Sem.receptionistReq ≠
        .tableDone t by simp)]; rfl) (by rw [hp]; rfl) (fun _ _ e => by cases e) (by rw [hp]; rfl)
      rfl (by simp) (by rw [hp]; simp [ReceptionistPc.busy]) ⟨by simp; omega, fun e => absurd rfl e⟩
    rw [hp]
    by_cases e : t' = t
    · subst e; simp [ReceptionistPc.paying, ReceptionistPc.payment]
    · simp [up_sem_of_ne _ (show Sem.tableDone t' ≠ .tableDone t by simp [e]),
        ReceptionistPc.paying, ReceptionistPc.payment, Ne.symm e]
  | aborted => simp [Restaurant.receptionistStep, hp] at h

end Restaurant
