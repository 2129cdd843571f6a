import Restaurant.Tokens
/-!
# Restaurant — the receptionist's invariant

What holds between the groups, the receptionist's mailbox and its
private `groupRecord`, in every reachable state. `Seating` is stated
phase by phase of a group's code: before its `TABLEREQ` is read a group
is `TOARRIVE` and unseated; at `checkInWaitTable` it is queued, being
seated, or seated with its `waitForTable` token on the way
(`AtReception`); from `orderFood` to the read of its `BILLREQ` it is
`ATTABLE` at `assignedTable`; and after paying it is `DONE` and
unseated. The receptionist's mailbox is accounted for by its history:
every value read is the next one written (`mail`), each group writes a
`TABLEREQ` and then a `BILLREQ` (`writes`), and the records are exactly
what the reads so far have done to them (`reads`).
-/

namespace Restaurant

namespace GroupPc

/-- What a group has written into `receptionistRequest`, by its point. -/
def receptionistWrites (g : Nat) (p : GroupPc) : List Request :=
  if p.idx < 2 then [] else if p.idx < 17 then [⟨.TABLEREQ, g⟩]
  else [⟨.TABLEREQ, g⟩, ⟨.BILLREQ, g⟩]

/-- The phase a group has last saved, by its point. -/
def stat (p : GroupPc) : GroupStat :=
  if p.idx < 2 then .GOING else if p.idx < 8 then .ATRECEPTION
  else if p.idx < 11 then .FOOD_REQUEST else if p.idx < 14 then .WAIT_FOR_FOOD
  else if p.idx < 17 then .EAT else if p.idx < 21 then .CHECKOUT else .LEAVING

end GroupPc

/-- The requests of group `g` a record accounts for. -/
def GroupRecord.reads (g : Nat) : GroupRecord → List Request
  | .TOARRIVE => []
  | .WAIT | .ATTABLE => [⟨.TABLEREQ, g⟩]
  | .DONE => [⟨.TABLEREQ, g⟩, ⟨.BILLREQ, g⟩]

/-- The request of group `g` the receptionist carries, if any. -/
def ReceptionistPc.holdsFor (g : Nat) (r : ReceptionistPc) : List Request :=
  match r.holds with
  | some q => if q.reqGroup = g then [q] else []
  | none => []

/-- The payment the receptionist is completing: the paying group and its
table, from the table's release to the `semUp` of `tableDone`. -/
def ReceptionistPc.payment : ReceptionistPc → Option (Nat × Int)
  | .receivePaymentSignal p _ t | .receivePaymentLeave p t | .receivePaymentDone p t => some (p, t)
  | _ => none

/-- A `tableDone[t]` token the receptionist owes. -/
def ReceptionistPc.paying (t : Int) (r : ReceptionistPc) : Bool :=
  match r.payment with
  | some (_, t') => t' == t
  | none => false

/-- Between `receivePayment`'s choice of the next group and its hand-over
of the table. -/
def ReceptionistPc.handing : ReceptionistPc → Bool
  | .receivePaymentSignal _ _ _ => true
  | _ => false

/-- Written into `receptionistRequest` and not yet copied out. -/
def receptionistPending (nGroups : Nat) (s : State) : Nat :=
  countAt nGroups GroupPc.postsReceptionist s.group + s.sem .receptionistReq
    + s.receptionist.reads.toNat

/-- The groups the receptionist has queued. -/
def waitingGroups (nGroups : Nat) (s : State) : Nat :=
  countGroups nGroups fun g => decide (s.groupRecord g = .WAIT)

/-- The group the receptionist is about to wake on its `waitForTable`. -/
def ReceptionistPc.signals : ReceptionistPc → Option Nat
  | .provideTableSignal g | .receivePaymentSignal _ g _ => some g
  | _ => none

/-- A group at `checkInWaitTable`, as the receptionist sees it: its
request not yet acted on, queued, seated with the table's token sent,
or seated and about to be woken. -/
def AtReception (NUMTABLES : Nat) (s : State) (g : Nat) : Prop :=
  (s.groupRecord g = .TOARRIVE ∧ s.assignedTable g = -1 ∧ s.sem (.waitForTable g) = 0 ∧
    s.receptionist.signals ≠ some g) ∨
  (s.groupRecord g = .WAIT ∧ s.assignedTable g = -1 ∧ s.sem (.waitForTable g) = 0 ∧
    s.receptionist.signals ≠ some g) ∨
  (s.groupRecord g = .ATTABLE ∧ 0 ≤ s.assignedTable g ∧ s.assignedTable g < NUMTABLES ∧
    s.sem (.waitForTable g) = 1 ∧ s.receptionist.signals ≠ some g) ∨
  (s.groupRecord g = .ATTABLE ∧ s.sem (.waitForTable g) = 0 ∧ s.receptionist.signals = some g)

/-- Group `g`'s phase in the receptionist's data, point by point of its
code. -/
structure GroupPhase (NUMTABLES : Nat) (s : State) (g : Nat) : Prop where
  stat : s.groupStat g = (s.group g).stat
  arriving : (s.group g).idx ≤ 3 →
    s.groupRecord g = .TOARRIVE ∧ s.assignedTable g = -1 ∧ s.sem (.waitForTable g) = 0
  atReception : s.group g = .checkInWaitTable → AtReception NUMTABLES s g
  seated : 5 ≤ (s.group g).idx → (s.group g).idx ≤ 18 →
    s.groupRecord g = .ATTABLE ∧ 0 ≤ s.assignedTable g ∧ s.assignedTable g < NUMTABLES ∧
      s.sem (.waitForTable g) = 0 ∧ ∀ t, (s.group g).table? = some t → t = s.assignedTable g
  leaving : 19 ≤ (s.group g).idx → s.sem (.waitForTable g) = 0 ∧
    ∃ t, (s.group g).table? = some t ∧ 0 ≤ t ∧ t < NUMTABLES ∧
      (s.groupRecord g = .ATTABLE ∧ s.assignedTable g = t ∨
        s.groupRecord g = .DONE ∧ s.assignedTable g = -1)

/-- **The receptionist's invariant.** -/
structure Seating (NUMTABLES nGroups : Nat) (s : State) : Prop where
  mail : s.ghost.receptionistReads ++
      List.replicate (receptionistPending nGroups s) s.receptionistRequest =
    s.ghost.receptionistWrites
  writes : ∀ g, g < nGroups →
    s.ghost.receptionistWrites.filter (·.reqGroup == g) = (s.group g).receptionistWrites g
  writes_lt : ∀ r ∈ s.ghost.receptionistWrites, r.reqGroup < nGroups
  reads : ∀ g, g < nGroups → s.ghost.receptionistReads.filter (·.reqGroup == g) =
    (s.groupRecord g).reads g ++ s.receptionist.holdsFor g
  read_table : ∀ g, ⟨.TABLEREQ, g⟩ ∈ s.ghost.receptionistReads → 4 ≤ (s.group g).idx
  read_bill : ∀ g, ⟨.BILLREQ, g⟩ ∈ s.ghost.receptionistReads → 19 ≤ (s.group g).idx
  phase : ∀ g, g < nGroups → GroupPhase NUMTABLES s g
  provide : ∀ g, s.receptionist = .provideTableSignal g →
    g < nGroups ∧ s.group g = .checkInWaitTable ∧ 0 ≤ s.assignedTable g ∧
      s.assignedTable g < NUMTABLES
  handing : ∀ p ng t, s.receptionist = .receivePaymentSignal p ng t →
    ng < nGroups ∧ s.group ng = .checkInWaitTable ∧ s.assignedTable ng = -1 ∧ 0 ≤ t ∧
      t < NUMTABLES ∧ ∀ h, h < nGroups → s.assignedTable h ≠ t
  paying : ∀ p t, s.receptionist.payment = some (p, t) →
    p < nGroups ∧ s.groupRecord p = .DONE ∧ (s.group p).table? = some t ∧ 19 ≤ (s.group p).idx
  holds_lt : ∀ r, s.receptionist.holds = some r → r.reqGroup < nGroups
  not_aborted : s.receptionist ≠ .aborted
  groupsWaiting : s.groupsWaiting = waitingGroups nGroups s + s.receptionist.handing.toNat
  tablesFull : 0 < s.groupsWaiting → ∀ t : Nat, t < NUMTABLES →
    (∃ h, h < nGroups ∧ s.assignedTable h = t) ∨ ∃ p ng, s.receptionist = .receivePaymentSignal p ng t
  exclusive : ∀ g h, g < nGroups → h < nGroups → g ≠ h → 0 ≤ s.assignedTable g →
    s.assignedTable g ≠ s.assignedTable h
  tableDone : ∀ t, s.sem (.tableDone t)
      + countGroups nGroups (fun g => decide (20 ≤ (s.group g).idx ∧ (s.group g).table? = some t))
      + (s.receptionist.paying t).toNat =
    countGroups nGroups fun g => decide (s.groupRecord g = .DONE ∧ (s.group g).table? = some t)
  served : s.receptionistReqs + s.receptionist.busy.toNat = s.ghost.receptionistReads.length
  bounded : s.receptionistReqs ≤ 2 * nGroups ∧
    (s.receptionist ≠ .waitForGroup → s.receptionistReqs < 2 * nGroups)

variable {NUMTABLES nGroups : Nat}

/-! ## Reading the points -/

theorem GroupPc.eq_checkInWaitTable {p : GroupPc} (h : p.idx = 4) : p = .checkInWaitTable := by
  cases p <;> simp_all [idx]

theorem GroupPc.idx_le (p : GroupPc) : p.idx ≤ 22 := by
  cases p <;> simp [idx]

theorem GroupPc.eq_checkOutWait {p : GroupPc} (h : p.idx = 19) : ∃ t, p = .checkOutWait t := by
  cases p <;> simp_all [idx]

/-- From `checkOutAtReception`'s read of `assignedTable` on, the group
has a `table_id`. -/
theorem GroupPc.table?_of_le {p : GroupPc} (h : 17 ≤ p.idx) : ∃ t, p.table? = some t := by
  cases p <;> simp_all [idx, table?]

theorem GroupPc.semOp_eq_tableDone {g : Nat} {t : Int} {p : GroupPc}
    (e : p.semOp g = .tableDone t) : p = .checkOutWait t := by
  cases p <;> simp_all [semOp]

theorem GroupPc.reqGroup_of_mem_receptionistWrites {g : Nat} {p : GroupPc} {r : Request}
    (h : r ∈ p.receptionistWrites g) : r.reqGroup = g := by
  unfold receptionistWrites at h; split_ifs at h <;> simp at h <;> rcases h with rfl | rfl <;> rfl

/-- A group's `TABLEREQ` is written by `checkInAtReception`, its
`BILLREQ` by `checkOutAtReception`. -/
theorem GroupPc.idx_of_mem_receptionistWrites {g : Nat} {p : GroupPc} {r : Request}
    (h : r ∈ p.receptionistWrites g) :
    r.reqType = .TABLEREQ ∧ 2 ≤ p.idx ∨ r.reqType = .BILLREQ ∧ 17 ≤ p.idx := by
  unfold receptionistWrites at h
  split_ifs at h <;> simp at h <;> rcases h with rfl | rfl <;> simp <;> omega

/-- Between writing a request and releasing `mutex`, a group holds it. -/
theorem GroupPc.idx_of_holdsMutex_eq_false {p : GroupPc} (h : p.holdsMutex = false) :
    p.idx ≠ 2 ∧ p.idx ≠ 3 ∧ p.idx ≠ 17 ∧ p.idx ≠ 18 := by
  cases p <;> simp_all [holdsMutex, idx]

/-- The two points that write the mailbox hold its permit and have not
yet posted. -/
theorem GroupPc.posting {p : GroupPc} (h : p.idx = 1 ∨ p.idx = 16) :
    p.holdsReceptionistSlot = true ∧ p.postsReceptionist = false := by
  cases p <;> simp_all [idx, holdsReceptionistSlot, postsReceptionist]

/-- Away from the two writes, a step keeps what the group has written. -/
theorem GroupPc.receptionistWrites_succ {g : Nat} {p p' : GroupPc} (e : p'.idx = p.idx + 1)
    (h1 : p.idx ≠ 1) (h16 : p.idx ≠ 16) : p'.receptionistWrites g = p.receptionistWrites g := by
  unfold receptionistWrites; rw [e]; split_ifs <;> first | rfl | omega

theorem countAt_mono {f f' : GroupPc → Bool} (h : ∀ p, f p = true → f' p = true)
    (G : Nat → GroupPc) : countAt nGroups f G ≤ countAt nGroups f' G :=
  List.countP_mono_left fun _ _ hi => h _ hi

theorem countGroups_mono {p q : Nat → Bool} (h : ∀ i, i < nGroups → p i = true → q i = true) :
    countGroups nGroups p ≤ countGroups nGroups q :=
  List.countP_mono_left fun i hm hi => h i (List.mem_range.1 hm) hi

/-- **A predicate that holds of fewer groups counts fewer.** -/
theorem countGroups_lt {p q : Nat → Bool} (h : ∀ i, i < nGroups → p i = true → q i = true) {g : Nat}
    (hg : g < nGroups) (hq : q g = true) (hp : p g = false) :
    countGroups nGroups p < countGroups nGroups q := by
  let q' := fun i => if i = g then false else q i
  have h1 := countGroups_update (q := q') hg fun i hi => if_neg hi
  have h2 : countGroups nGroups p ≤ countGroups nGroups q' := countGroups_mono fun i hin hi => by
    have : i ≠ g := fun e => by subst e; simp [hp] at hi
    simp only [q', if_neg this]; exact h i hin hi
  have e : q' g = false := by simp [q']
  rw [hq, e] at h1
  simp only [Bool.toNat_true, Bool.toNat_false] at h1
  omega

theorem receptionistPending_le_one {s : State} (hT : Tokens nGroups s) :
    receptionistPending nGroups s ≤ 1 := by
  have := hT.receptionistSlot
  have h1 := @countAt_mono nGroups GroupPc.postsReceptionist
    GroupPc.holdsReceptionistSlot (fun p => by cases p <;> simp [GroupPc.postsReceptionist,
      GroupPc.holdsReceptionistSlot]) s.group
  have h2 : s.receptionist.reads.toNat ≤ s.receptionist.holdsSlot.toNat := by
    cases s.receptionist <;> simp [ReceptionistPc.reads, ReceptionistPc.holdsSlot]
  unfold receptionistPending
  omega

/-- Nothing is pending while a group holds the permit before posting. -/
theorem receptionistPending_eq_zero {s : State} (hT : Tokens nGroups s) {g : Nat} (hg : g < nGroups)
    (hh : (s.group g).holdsReceptionistSlot = true) (hp : (s.group g).postsReceptionist = false) :
    receptionistPending nGroups s = 0 := by
  have := hT.receptionistSlot
  have h1 : countAt nGroups GroupPc.postsReceptionist s.group <
      countAt nGroups GroupPc.holdsReceptionistSlot s.group :=
    countGroups_lt (fun i _ hi => by revert hi; cases s.group i <;>
      simp [GroupPc.postsReceptionist, GroupPc.holdsReceptionistSlot]) hg hh hp
  have h2 : s.receptionist.reads.toNat ≤ s.receptionist.holdsSlot.toNat := by
    cases s.receptionist <;> simp [ReceptionistPc.reads, ReceptionistPc.holdsSlot]
  unfold receptionistPending
  omega

/-! ## The initial state -/

theorem seating_initial {s : State} (h : Initial s) : Seating NUMTABLES nGroups s := by
  have hG : ∀ g, (s.group g).idx = 0 := fun g => by rw [h.group g]; rfl
  have hpend : receptionistPending nGroups s = 0 := by
    simp [receptionistPending, h.sem, initialSem, h.receptionist, ReceptionistPc.reads, countAt,
      h.group, GroupPc.postsReceptionist, countGroups]
  have hwait : waitingGroups nGroups s = 0 := by
    simp [waitingGroups, h.groupRecord, countGroups]
  refine ⟨?mail, ?writes, ?writes_lt, ?reads, ?rt, ?rb, fun g _ => ⟨?stat, ?arr, ?atr, ?sea, ?lea⟩,
    ?prov, ?hand, ?pay, ?hlt, ?nab, ?gw, ?full, ?excl, ?td, ?served, ?bnd⟩
  all_goals simp_all [h.ghost, h.receptionist, h.sem, initialSem, h.groupRecord, h.assignedTable,
    h.groupsWaiting, h.receptionistReqs, h.groupStat, h.group, GroupPc.receptionistWrites,
    GroupPc.stat, GroupPc.idx, GroupRecord.reads, ReceptionistPc.holdsFor, ReceptionistPc.holds,
    ReceptionistPc.payment, ReceptionistPc.paying, ReceptionistPc.handing, ReceptionistPc.busy,
    countGroups]

/-! ## What the receptionist carries -/

namespace Seating

variable {s : State} (hS : Seating NUMTABLES nGroups s)
include hS

/-- **Group `g`'s share of the mailbox history**: what the records account
for, what the receptionist carries and what is still in the mailbox is
exactly what `g` has written. -/
theorem history {g : Nat} (hg : g < nGroups) :
    (s.groupRecord g).reads g ++ s.receptionist.holdsFor g ++
      (List.replicate (receptionistPending nGroups s) s.receptionistRequest).filter
        (·.reqGroup == g) = (s.group g).receptionistWrites g := by
  rw [← hS.reads g hg, ← List.filter_append, hS.mail, hS.writes g hg]

/-- A queued or not yet served group is still at `checkInWaitTable`. -/
theorem idx_le_four {g : Nat} (hg : g < nGroups)
    (h : s.groupRecord g = .TOARRIVE ∨ s.groupRecord g = .WAIT) : (s.group g).idx ≤ 4 := by
  have ph := hS.phase g hg
  by_contra hlt
  rcases Nat.lt_or_ge (s.group g).idx 19 with h19 | h19
  · have := (ph.seated (by omega) (by omega)).1; rcases h with h | h <;> simp_all
  · obtain ⟨-, t, -, -, -, h' | h'⟩ := ph.leaving h19 <;> rcases h with h | h <;> simp_all

/-- The `TABLEREQ` the receptionist carries is that of a group waiting at
`checkInWaitTable` whose request has not been acted on. -/
theorem holds_table {g : Nat} (h : s.receptionist.holds = some ⟨.TABLEREQ, g⟩) :
    g < nGroups ∧ s.groupRecord g = .TOARRIVE ∧ s.group g = .checkInWaitTable ∧
      s.assignedTable g = -1 := by
  have hg : g < nGroups := hS.holds_lt _ h
  have hist := hS.history hg
  have hmem : (⟨.TABLEREQ, g⟩ : Request) ∈ s.ghost.receptionistReads := by
    have := hS.reads g hg
    have hm : (⟨.TABLEREQ, g⟩ : Request) ∈ s.ghost.receptionistReads.filter (·.reqGroup == g) := by
      rw [this]; simp [ReceptionistPc.holdsFor, h]
    exact (List.mem_filter.1 hm).1
  have hrec : s.groupRecord g = .TOARRIVE := by
    simp only [ReceptionistPc.holdsFor, h, if_pos] at hist
    unfold GroupPc.receptionistWrites at hist
    cases hr : s.groupRecord g <;> simp only [hr, GroupRecord.reads] at hist <;>
      split_ifs at hist <;> simp at hist ⊢
  have h4 := hS.read_table g hmem
  have hle := hS.idx_le_four hg (.inl hrec)
  have hpc := GroupPc.eq_checkInWaitTable (show (s.group g).idx = 4 by omega)
  refine ⟨hg, hrec, hpc, ?_⟩
  rcases (hS.phase g hg).atReception hpc with ⟨-, h, -⟩ | ⟨h', -⟩ | ⟨h', -⟩ | ⟨h', -⟩ <;>
    simp_all

/-- The `BILLREQ` the receptionist carries is that of a seated group past
posting it. -/
theorem holds_bill {g : Nat} (h : s.receptionist.holds = some ⟨.BILLREQ, g⟩) :
    g < nGroups ∧ s.groupRecord g = .ATTABLE ∧ 19 ≤ (s.group g).idx ∧
      (s.group g).table? = some (s.assignedTable g) ∧ 0 ≤ s.assignedTable g ∧
      s.assignedTable g < NUMTABLES := by
  have hg : g < nGroups := hS.holds_lt _ h
  have hist := hS.history hg
  have hmem : (⟨.BILLREQ, g⟩ : Request) ∈ s.ghost.receptionistReads := by
    have := hS.reads g hg
    have hm : (⟨.BILLREQ, g⟩ : Request) ∈ s.ghost.receptionistReads.filter (·.reqGroup == g) := by
      rw [this]; simp [ReceptionistPc.holdsFor, h]
    exact (List.mem_filter.1 hm).1
  have h19 := hS.read_bill g hmem
  obtain ⟨-, t, ht, ht0, htT, ⟨hrec, hat⟩ | ⟨hrec, -⟩⟩ := (hS.phase g hg).leaving h19
  · subst hat; exact ⟨hg, hrec, h19, ht, ht0, htT⟩
  · simp only [ReceptionistPc.holdsFor, h, if_pos, hrec, GroupRecord.reads] at hist
    unfold GroupPc.receptionistWrites at hist
    split_ifs at hist <;> simp at hist

/-- The receptionist only ever carries table and bill requests. -/
theorem holds_kind {r : Request} (h : s.receptionist.holds = some r) :
    r = ⟨.TABLEREQ, r.reqGroup⟩ ∨ r = ⟨.BILLREQ, r.reqGroup⟩ := by
  have hg := hS.holds_lt _ h
  have hist := hS.history hg
  simp only [ReceptionistPc.holdsFor, h, if_pos] at hist
  have : r ∈ (s.group r.reqGroup).receptionistWrites r.reqGroup := by rw [← hist]; simp
  unfold GroupPc.receptionistWrites at this
  split_ifs at this <;>
    simp only [List.mem_cons, List.mem_singleton, List.not_mem_nil, or_false] at this
  · exact .inl this
  · exact this

/-- The group the receptionist is about to wake waits at
`checkInWaitTable`. -/
theorem signals_eq {g : Nat} (h : s.receptionist.signals = some g) :
    g < nGroups ∧ s.group g = .checkInWaitTable := by
  cases hr : s.receptionist <;> simp only [hr, ReceptionistPc.signals, Option.some.injEq,
    reduceCtorEq] at h
  · subst h; exact (hS.provide _ hr).imp_right fun h => h.1
  · subst h; exact (hS.handing _ _ _ hr).imp_right fun h => h.1

end Seating

end Restaurant
