import Restaurant.Progress.Blocked
/-!
# Restaurant — deadlock

Which stuck states the protocol reaches. The waiter's `informChef` waits
for the chef's `orderReceived`, while the chef, still posting an earlier
group's `FOODREADY`, waits for the waiter's request permit; the permit is
held by a third group's request, which only the waiter can take out of
its mailbox. The three groups are seated at once, so this needs three
tables and three groups (`Stuck.three_seated`). A stuck state whose
waiter's mailbox is empty is the final one (`Stuck.final_of_idle`), so
with at most two tables or two groups every stuck state is
(`Stuck.final`).
-/

namespace Restaurant

open State

variable {NUMTABLES nGroups : Nat} {s : State}

/-! ## Finished loops leave nothing behind -/

theorem Seating.writes_length_le (hS : Seating NUMTABLES nGroups s) :
    s.ghost.receptionistWrites.length ≤ 2 * nGroups :=
  length_le_of_shares (fun g => [⟨.TABLEREQ, g⟩, ⟨.BILLREQ, g⟩]) hS.writes_lt (fun _ => rfl)
    fun g hg => hS.writes g hg ▸ GroupPc.receptionistWrites_prefix g (s.group g)

/-- A receptionist that has served `2 * nGroups` requests has none left
in its mailbox. -/
theorem Seating.pending_eq_zero_of_done (hS : Seating NUMTABLES nGroups s)
    (hR : s.receptionist = .waitForGroup) (hr : 2 * nGroups ≤ s.receptionistReqs) :
    receptionistPending nGroups s = 0 := by
  have hlen := congrArg List.length hS.mail
  have hserved := hS.served
  have := hS.writes_length_le
  simp only [List.length_append, List.length_replicate, hR, ReceptionistPc.busy,
    Bool.toNat_false] at hlen hserved
  omega

theorem Kitchen.writes_length_le (hK : Kitchen NUMTABLES nGroups s) :
    s.ghost.waiterWrites.length ≤ 2 * nGroups :=
  length_le_of_shares (fun g => [⟨.FOODREQ, g⟩, ⟨.FOODREADY, g⟩]) hK.writes_lt (fun _ => rfl)
    fun _ => hK.writes_prefix

/-- A waiter that has served `2 * nGroups` requests has none left in its
mailbox. -/
theorem Kitchen.pending_eq_zero_of_done (hK : Kitchen NUMTABLES nGroups s)
    (hW : s.waiter = .waitForClientOrChef) (hr : 2 * nGroups ≤ s.waiterReqs) :
    waiterPending nGroups s = 0 := by
  have hlen := congrArg List.length hK.mail
  have hserved := hK.served
  have := hK.writes_length_le
  simp only [List.length_append, List.length_replicate, hW, WaiterPc.busy,
    Bool.toNat_false] at hlen hserved
  omega

theorem length_le_of_nodup {n : Nat} {l : List Nat} (hnd : l.Nodup) (h : ∀ g ∈ l, g < n) :
    l.length ≤ n :=
  calc l.length = l.toFinset.card := (List.toFinset_card_of_nodup hnd).symm
    _ ≤ (Finset.range n).card :=
      Finset.card_le_card fun g hg => Finset.mem_range.2 (h g (List.mem_toFinset.1 hg))
    _ = n := Finset.card_range n

theorem le_length_of_nodup {n : Nat} {l : List Nat} (hnd : l.Nodup) (h : ∀ g, g < n → g ∈ l) :
    n ≤ l.length :=
  calc n = (Finset.range n).card := (Finset.card_range n).symm
    _ ≤ l.toFinset.card :=
      Finset.card_le_card fun g hg => List.mem_toFinset.2 (h g (Finset.mem_range.1 hg))
    _ = l.length := List.toFinset_card_of_nodup hnd

/-- The chef takes each group's order once: the orders it has taken, and
the one waiting for it, number at most `nGroups`. -/
theorem Kitchen.chefOrders_add_pending_le (hK : Kitchen NUMTABLES nGroups s) :
    s.chefOrders + s.chef.busy.toNat + orderPending s ≤ nGroups := by
  have hlen := congrArg List.length hK.orders
  have := length_le_of_nodup hK.nodup hK.ordered_lt
  have := hK.cooked
  simp only [List.length_append, List.length_replicate] at hlen
  omega

/-! ## The kitchen's deadlock -/

/-- A group whose order is stored and not yet cooked waits for its food. -/
theorem Kitchen.waiting_of_uncooked (hK : Kitchen NUMTABLES nGroups s) {g : Nat}
    (hw : g ∈ s.ghost.orderWrites) (hc : g ∉ s.ghost.orderReads ∨ s.chef.holds = some g) :
    g < nGroups ∧ 9 ≤ (s.group g).idx ∧ (s.group g).idx ≤ 12 := by
  obtain ⟨hg, h9⟩ := hK.mem_orderWrites hw
  refine ⟨hg, h9, Nat.not_lt.1 fun h13 => ?_⟩
  obtain ⟨hr, hne⟩ := hK.cooked_of_served hg (hK.eaten g hg h13)
  exact hc.elim (· hr) hne

section Pending

variable (hK : Kitchen NUMTABLES nGroups s) (hpend : waiterPending nGroups s = 1)
  (hW : s.waiter.holds = none)
include hK hpend hW

/-- With a request in the waiter's mailbox and none in the waiter's
hands, the request is the last its group has written. -/
theorem Kitchen.pending_history :
    s.waiterRequest.reqGroup < nGroups ∧
      foodReads s s.waiterRequest.reqGroup ++ [s.waiterRequest] =
        (s.group s.waiterRequest.reqGroup).waiterWrites s.waiterRequest.reqGroup ++
          cookedWrites s s.waiterRequest.reqGroup := by
  have hmem : s.waiterRequest ∈ s.ghost.waiterWrites := by rw [← hK.mail, hpend]; simp
  have hg := hK.writes_lt _ hmem
  refine ⟨hg, ?_⟩
  have := hK.history hg
  simpa [hpend, WaiterPc.holdsFor, hW] using this

/-- The group of a request in the waiter's mailbox is seated. -/
theorem Kitchen.pending_seated :
    s.waiterRequest.reqGroup < nGroups ∧ 7 ≤ (s.group s.waiterRequest.reqGroup).idx ∧
      (s.group s.waiterRequest.reqGroup).idx ≤ 12 := by
  obtain ⟨hg, hh⟩ := hK.pending_history hpend hW
  have hlen := congrArg List.length hh
  have h2 := (hK.writes _ hg ▸ hK.writes_prefix hg).length_le
  refine ⟨hg, Nat.not_lt.1 fun h7 => ?_, Nat.not_lt.1 fun h13 => ?_⟩
  · rw [hK.cookedWrites_eq_nil (by omega)] at hlen
    simp [GroupPc.waiterWrites, h7] at hlen
  · have hi := hK.informed _ hg (by omega)
    have hs := hK.eaten _ hg h13
    have h3 := hh ▸ h2
    simp [foodReads, hi, hs] at h3

/-- An informed group with nothing cooked has no request left to post. -/
theorem Kitchen.pending_ne {g : Nat} (hinf : g ∈ s.ghost.informed) (hc : cookedWrites s g = []) :
    s.waiterRequest.reqGroup ≠ g := by
  rintro rfl
  have hlen := congrArg List.length (hK.pending_history hpend hW).2
  rw [hc] at hlen
  unfold GroupPc.waiterWrites at hlen
  split_ifs at hlen <;> simp [foodReads, hinf] at hlen

end Pending

/-- **The deadlock needs three seated groups.** If the waiter waits on
`orderReceived` in a stuck state with a request in its mailbox, the chef
waits to post an earlier group's `FOODREADY`, and that group, the one
whose order the waiter is passing on and the one whose request is in the
mailbox are three groups at three tables. -/
theorem Stuck.three_seated (hst : Stuck NUMTABLES nGroups s) (hT : Tokens nGroups s)
    (hS : Seating NUMTABLES nGroups s) (hK : Kitchen NUMTABLES nGroups s) {g₁ : Nat}
    (hW : s.waiter = .informChefWait g₁) (h1 : 0 < s.sem .waiterRequest) :
    (∃ g₀, s.chef = .processOrder g₀ ∧ s.sem .waiterRequestPossible = 0) ∧
      3 ≤ NUMTABLES ∧ 3 ≤ nGroups := by
  have hrecv : s.sem .orderReceived = 0 := by
    rcases hst.waiter hT hS with ⟨e, -⟩ | ⟨e, -⟩ | ⟨_, -, h0⟩
    · rw [hW] at e; cases e
    · rw [hW] at e; cases e
    · exact h0
  have hord := hT.order
  have hbound := hK.chefOrders_add_pending_le
  rcases hst.chef hT hS with ⟨hC, hC'⟩ | ⟨g₀, hC, hwrp⟩
  · simp only [hC, hW, ChefPc.handshake, WaiterPc.awaitsChef, Bool.toNat_true,
      Bool.toNat_false] at hord hbound
    simp only [orderPending, hW, hC, WaiterPc.ordering, ChefPc.reads, Bool.toNat_false] at hbound
    omega
  have hwo : s.sem .waitOrder = 1 := by
    simp only [hC, hW, ChefPc.handshake, WaiterPc.awaitsChef, Bool.toNat_true,
      Bool.toNat_false] at hord
    omega
  have hopend : orderPending s = 1 := by
    simp [orderPending, hW, hC, hwo, WaiterPc.ordering, ChefPc.reads]
  have hpend : waiterPending nGroups s = 1 :=
    le_antisymm (waiterPending_le_one hT) (by unfold waiterPending; omega)
  have hholds : s.waiter.holds = none := by rw [hW]; rfl
  -- the chef's group, the waiter's group and the mailbox's group
  have hr₀ : g₀ ∈ s.ghost.orderReads := hK.chef g₀ (by rw [hC]; rfl)
  have hw : s.ghost.orderReads ++ [g₁] = s.ghost.orderWrites := by
    have := hK.orders
    rwa [hopend, List.replicate_one, hK.slot g₁ (by rw [hW]; rfl)] at this
  have hinf : s.ghost.orderWrites = s.ghost.informed := by
    rw [hK.ordered, hW]; simp [WaiterPc.informing]
  have hr₁ : g₁ ∉ s.ghost.orderReads := fun h =>
    List.disjoint_of_nodup_append (hw ▸ hK.nodup) h (List.mem_singleton_self g₁)
  have hw₀ := hK.mem_orderReads hr₀
  have hw₁ : g₁ ∈ s.ghost.orderWrites := hw ▸ List.mem_append_right _ (List.mem_singleton_self g₁)
  obtain ⟨hg₀, h₀, h₀'⟩ := hK.waiting_of_uncooked hw₀ (.inr (by rw [hC]; rfl))
  obtain ⟨hg₁, h₁, h₁'⟩ := hK.waiting_of_uncooked hw₁ (.inl hr₁)
  obtain ⟨hg₂, h₂, h₂'⟩ := hK.pending_seated hpend hholds
  have h01 : g₀ ≠ g₁ := fun e => hr₁ (e ▸ hr₀)
  have h20 : s.waiterRequest.reqGroup ≠ g₀ := hK.pending_ne hpend hholds (hinf ▸ hw₀)
    (by simp [cookedWrites, hC, ChefPc.holds])
  have h21 : s.waiterRequest.reqGroup ≠ g₁ := hK.pending_ne hpend hholds (hinf ▸ hw₁)
    (by simp [cookedWrites, hr₁])
  -- three groups at three tables
  have t₀ := hS.assignedTable_valid hg₀ (by omega) (by omega)
  have t₁ := hS.assignedTable_valid hg₁ (by omega) (by omega)
  have t₂ := hS.assignedTable_valid hg₂ (by omega) (by omega)
  have e01 := hS.exclusive _ _ hg₀ hg₁ h01 t₀.1
  have e20 := hS.exclusive _ _ hg₂ hg₀ h20 t₂.1
  have e21 := hS.exclusive _ _ hg₂ hg₁ h21 t₂.1
  exact ⟨⟨g₀, hC, hwrp⟩, by omega⟩

/-! ## Every other stuck state is final -/

/-- Every group's two requests make a log of `2 * n`. -/
theorem length_eq_of_shares {n : Nat} {l : List Request} (hlt : ∀ r ∈ l, r.reqGroup < n)
    (h : ∀ g, g < n → (l.filter (·.reqGroup == g)).length = 2) : l.length = 2 * n := by
  rw [length_eq_sum_filter hlt, Finset.sum_congr rfl fun g hg => h g (Finset.mem_range.1 hg)]
  simp [mul_comm]

namespace Stuck

variable (hst : Stuck NUMTABLES nGroups s) (hT : Tokens nGroups s)
  (hS : Seating NUMTABLES nGroups s) (hK : Kitchen NUMTABLES nGroups s)
include hst hT hS

/-- **The receptionist is idle**: at its loop's head or waiting for a
request, with nothing in its mailbox and its permit free. -/
theorem receptionist_idle :
    (s.receptionist = .waitForGroup ∨ s.receptionist = .waitForGroupWait) ∧
      receptionistPending nGroups s = 0 ∧ s.sem .receptionistRequestPossible = 1 := by
  have hc := hst.counts hT hS
  have hslot := hT.receptionistSlot
  have hpend : receptionistPending nGroups s = 0 := by
    rcases hst.receptionist hT hS with ⟨hR, hr⟩ | ⟨hR, h0⟩
    · exact hS.pending_eq_zero_of_done hR hr
    · simp [receptionistPending, hc.2.2.1, h0, hR, ReceptionistPc.reads]
  have hR : s.receptionist = .waitForGroup ∨ s.receptionist = .waitForGroupWait :=
    (hst.receptionist hT hS).imp (·.1) (·.1)
  refine ⟨hR, hpend, ?_⟩
  have hh : s.receptionist.holdsSlot = false := by rcases hR with e | e <;> rw [e] <;> rfl
  simp only [receptionistPending, hc.1, hh, Bool.toNat_false] at hpend hslot
  omega

theorem receptionist_holds : s.receptionist.holds = none := by
  rcases (hst.receptionist_idle hT hS).1 with e | e <;> rw [e] <;> rfl

/-- In a stuck state the receptionist has served every request written:
each group's record accounts for all it has posted. -/
theorem records_eq {g : Nat} (hg : g < nGroups) :
    (s.groupRecord g).reads g = (s.group g).receptionistWrites g := by
  have hist := hS.history hg
  simpa [(hst.receptionist_idle hT hS).2.1, ReceptionistPc.holdsFor,
    hst.receptionist_holds hT hS] using hist

/-- A group that has posted its bill has been paid for. -/
theorem done_of_billed {g : Nat} (hg : g < nGroups) (h17 : 17 ≤ (s.group g).idx) :
    s.groupRecord g = .DONE := by
  have := hst.records_eq hT hS hg
  unfold GroupPc.receptionistWrites at this
  rw [if_neg (by omega), if_neg (by omega)] at this
  cases hr : s.groupRecord g <;> simp [hr, GroupRecord.reads] at this ⊢

/-- A group at `checkOutWait` has its `tableDone` token: nobody else
waits on that table once every bill is paid. -/
theorem not_checkOutWait {g : Nat} (hg : g < nGroups) {t : Int}
    (hp : s.group g = .checkOutWait t) (h0 : s.sem (.tableDone t) = 0) : False := by
  have htd := hS.tableDone t
  have hpay : s.receptionist.paying t = false := by
    rcases (hst.receptionist_idle hT hS).1 with e | e <;> rw [e] <;> rfl
  have hlt := countGroups_lt
    (p := fun h => decide (20 ≤ (s.group h).idx ∧ (s.group h).table? = some t))
    (q := fun h => decide (s.groupRecord h = .DONE ∧ (s.group h).table? = some t))
    (fun i hi h => by
      simp only [decide_eq_true_eq] at h ⊢
      exact ⟨hst.done_of_billed hT hS hi (by omega), h.2⟩)
    hg (by simp [hst.done_of_billed hT hS hg (by simp [hp, GroupPc.idx]), hp, GroupPc.table?])
    (by simp [hp, GroupPc.idx])
  rw [h0, hpay, Bool.toNat_false] at htd
  omega

theorem waitForTable_eq_zero {g : Nat} (hg : g < nGroups) (hp : s.group g = .checkInWaitTable) :
    s.sem (.waitForTable g) = 0 := by
  rcases (hst.group_parked hT hS hg).2 with ⟨t, e⟩ | h0
  · rw [hp] at e; cases e
  · simpa [hp, GroupPc.semOp] using h0

include hK

/-- A request left in the waiter's mailbox of a stuck state finds the
waiter in `informChef`, waiting for the chef's `orderReceived`. -/
theorem informChefWait_of_pending (h1 : s.sem .waiterRequest ≠ 0) :
    ∃ g₁, s.waiter = .informChefWait g₁ ∧ s.sem .orderReceived = 0 := by
  rcases hst.waiter hT hS with ⟨hW, hr⟩ | ⟨-, h0⟩ | h
  · have := hK.pending_eq_zero_of_done hW hr
    unfold waiterPending at this
    omega
  · exact absurd h0 h1
  · exact h

/-- With at most two tables or two groups the waiter's mailbox of a
stuck state is empty. -/
theorem waiterRequest_eq_zero (hsmall : NUMTABLES ≤ 2 ∨ nGroups ≤ 2) :
    s.sem .waiterRequest = 0 := by
  by_contra h1
  obtain ⟨g₁, hW, -⟩ := hst.informChefWait_of_pending hT hS hK h1
  have := (hst.three_seated hT hS hK hW (Nat.pos_of_ne_zero h1)).2
  omega

/-- **The waiter and the chef are idle** once the waiter's mailbox is
empty: nothing is in the order slot, the chef waits for an order and the
waiter for a request. -/
theorem kitchen_idle (hwr : s.sem .waiterRequest = 0) :
    (s.waiter = .waitForClientOrChef ∨ s.waiter = .waitForClientOrChefWait) ∧
      s.chef = .waitForOrder ∧ waiterPending nGroups s = 0 ∧ orderPending s = 0 ∧
      s.sem .waiterRequestPossible = 1 := by
  have hc := hst.counts hT hS
  have hslot := hT.waiterSlot
  have hW' : s.waiter.holdsSlot = false := by
    rcases hst.waiter hT hS with ⟨e, -⟩ | ⟨e, -⟩ | ⟨_, e, -⟩ <;> rw [e] <;> rfl
  have hC : s.chef = .waitForOrder := by
    rcases hst.chef hT hS with ⟨e, -⟩ | ⟨g, e, h0⟩
    · exact e
    · simp only [e, hc.2.1, hW', hwr, ChefPc.holdsSlot, Bool.toNat_false] at hslot
      omega
  simp only [hc.2.1, hW', hwr, hC, ChefPc.holdsSlot, Bool.toNat_false] at hslot
  have hord := hT.order
  have hbound := hK.chefOrders_add_pending_le
  have hW : s.waiter = .waitForClientOrChef ∨ s.waiter = .waitForClientOrChefWait := by
    rcases hst.waiter hT hS with ⟨e, -⟩ | ⟨e, -⟩ | ⟨g, e, h0⟩
    · exact .inl e
    · exact .inr e
    · rcases hst.chef hT hS with ⟨-, hn | hwo⟩ | ⟨_, e', -⟩
      · simp only [e, hC, orderPending, WaiterPc.ordering, ChefPc.reads, ChefPc.busy,
          ChefPc.handshake, WaiterPc.awaitsChef, Bool.toNat_false, Bool.toNat_true] at hord hbound
        omega
      · simp only [e, hC, ChefPc.handshake, WaiterPc.awaitsChef, Bool.toNat_false,
          Bool.toNat_true] at hord
        omega
      · rw [hC] at e'; cases e'
  have hwo : s.sem .waitOrder = 0 := by
    have : s.waiter.awaitsChef = false := by rcases hW with e | e <;> rw [e] <;> rfl
    simp only [this, hC, ChefPc.handshake, Bool.toNat_false] at hord
    omega
  have hreads : s.waiter.reads = false ∧ s.waiter.ordering = false := by
    rcases hW with e | e <;> rw [e] <;> exact ⟨rfl, rfl⟩
  refine ⟨hW, hC, ?_, ?_, hslot⟩
  · simp [waiterPending, hc.2.2.2, hC, hwr, hreads.1, ChefPc.posts]
  · simp [orderPending, hreads.2, hwo, hC, ChefPc.reads]

section Idle

variable (hwr : s.sem .waiterRequest = 0)
include hwr

theorem waiter_holds : s.waiter.holds = none := by
  rcases (hst.kitchen_idle hT hS hK hwr).1 with e | e <;> rw [e] <;> rfl

/-- In a stuck state the waiter has served every request written: each
group's food history is complete. -/
theorem foodReads_eq {g : Nat} (hg : g < nGroups) :
    foodReads s g = (s.group g).waiterWrites g ++ cookedWrites s g := by
  have hist := hK.history hg
  simpa [(hst.kitchen_idle hT hS hK hwr).2.2.1, WaiterPc.holdsFor,
    hst.waiter_holds hT hS hK hwr] using hist

/-- A group at `orderFoodWait` has been informed, so it has its
`requestReceived` token. -/
theorem not_orderFoodWait {g : Nat} (hg : g < nGroups) {t : Int}
    (hp : s.group g = .orderFoodWait t) (h0 : s.sem (.requestReceived t) = 0) : False := by
  have hinf : g ∉ s.ghost.informed := fun hi => by
    have := hK.requestReceived t
    rw [h0] at this
    exact absurd (countGroups_eq_zero.1 this.symm g hg) (by simp [hp, GroupPc.idx, GroupPc.table?, hi])
  have := hst.foodReads_eq hT hS hK hwr hg
  simp [foodReads, hinf, GroupPc.waiterWrites, hp, GroupPc.idx] at this
  split_ifs at this
  all_goals simp at this

/-- A group at `waitFoodWait` has been served, so it has its
`foodArrived` token. -/
theorem not_waitFoodWait {g : Nat} (hg : g < nGroups) {t : Int}
    (hp : s.group g = .waitFoodWait t) (h0 : s.sem (.foodArrived t) = 0) : False := by
  obtain ⟨-, hC, -, hopend, -⟩ := hst.kitchen_idle hT hS hK hwr
  have ht : t = s.assignedTable g :=
    ((hS.phase g hg).seated (by simp [hp, GroupPc.idx]) (by simp [hp, GroupPc.idx])).2.2.2.2 t
      (by rw [hp]; rfl)
  have hsrv : g ∉ s.ghost.served := fun hs => by
    have := hK.foodArrived t
    rw [h0] at this
    exact absurd (countGroups_eq_zero.1 this.symm g hg) (by simp [hp, GroupPc.idx, hs, ht])
  have hinf := hK.informed g hg (by simp [hp, GroupPc.idx])
  have hr : g ∈ s.ghost.orderReads := by
    have := hK.orders
    rw [hopend, List.replicate_zero, List.append_nil, hK.ordered] at this
    exact this ▸ List.mem_append_left _ hinf
  have := hst.foodReads_eq hT hS hK hwr hg
  simp [foodReads, hinf, hsrv, cookedWrites, hr, hC, ChefPc.holds, GroupPc.waiterWrites, hp,
    GroupPc.idx] at this

/-- A stuck group is at `checkInWaitTable` or has left. -/
theorem parked_group {g : Nat} (hg : g < nGroups) :
    s.group g = .checkInWaitTable ∨ ∃ t, s.group g = .exited t := by
  obtain ⟨hpk, ⟨t, e⟩ | h0⟩ := hst.group_parked hT hS hg
  · exact .inr ⟨t, e⟩
  have hrp := (hst.receptionist_idle hT hS).2.2
  have hwp := (hst.kitchen_idle hT hS hK hwr).2.2.2.2
  cases hp : s.group g <;> simp only [hp, GroupPc.parked, GroupPc.semOp, Bool.false_eq_true] at hpk h0
  case checkInWaitTable => exact .inl rfl
  case orderFoodWait t => exact (hst.not_orderFoodWait hT hS hK hwr hg hp h0).elim
  case waitFoodWait t => exact (hst.not_waitFoodWait hT hS hK hwr hg hp h0).elim
  case checkOutWait t => exact (hst.not_checkOutWait hT hS hg hp h0).elim
  case exited t => exact .inr ⟨t, rfl⟩
  case goToRestaurant => omega
  case orderFoodPossible => omega
  case checkOutPossible => omega

/-- **No group is left waiting for a table.** A queued group means every
table is taken, and a seated group has been woken and moved on. -/
theorem not_checkInWaitTable (hT1 : 1 ≤ NUMTABLES) {g : Nat} (hg : g < nGroups) :
    s.group g ≠ .checkInWaitTable := by
  intro hp
  have hw0 := hst.waitForTable_eq_zero hT hS hg hp
  have hsig : s.receptionist.signals = none := by
    rcases (hst.receptionist_idle hT hS).1 with e | e <;> rw [e] <;> rfl
  rcases (hS.phase g hg).atReception hp with ⟨hrec, -⟩ | ⟨hrec, -⟩ | ⟨-, -, -, h1, -⟩ | ⟨-, -, hs⟩
  · have := hst.records_eq hT hS hg
    simp [hrec, GroupRecord.reads, GroupPc.receptionistWrites, hp, GroupPc.idx] at this
  · have hpos : 0 < s.groupsWaiting := by
      have := hS.groupsWaiting
      have hw : 0 < waitingGroups nGroups s := countGroups_pos.2 ⟨g, hg, by simp [hrec]⟩
      rw [ReceptionistPc.handing_eq_false hsig, Bool.toNat_false] at this
      omega
    rcases hS.tablesFull hpos 0 hT1 with ⟨h, hh, e⟩ | ⟨p, ng, e⟩
    · rcases hst.parked_group hT hS hK hwr hh with hp' | ⟨t, hp'⟩
      · have hw0' := hst.waitForTable_eq_zero hT hS hh hp'
        rcases (hS.phase h hh).atReception hp' with ⟨-, ha, -⟩ | ⟨-, ha, -⟩ | ⟨-, -, -, h1, -⟩ |
            ⟨-, -, hs⟩
        · omega
        · omega
        · omega
        · rw [hsig] at hs; cases hs
      · have h22 : 19 ≤ (s.group h).idx := by simp [hp', GroupPc.idx]
        obtain ⟨-, -, -, -, -, ⟨ha, -⟩ | ⟨-, ha⟩⟩ := (hS.phase h hh).leaving h22
        · rw [hst.done_of_billed hT hS hh (by omega)] at ha; cases ha
        · omega
    · rcases (hst.receptionist_idle hT hS).1 with e' | e' <;> rw [e'] at e <;> cases e
  · omega
  · rw [hsig] at hs; cases hs

/-- A stuck state with the waiter's mailbox empty is final, with at
least one table. -/
theorem final_of_idle (hT1 : 1 ≤ NUMTABLES) : Final nGroups s := by
  have hex : ∀ g, g < nGroups → ∃ t, s.group g = .exited t := fun g hg =>
    (hst.parked_group hT hS hK hwr hg).resolve_left (hst.not_checkInWaitTable hT hS hK hwr hT1 hg)
  obtain ⟨hR, hrp, -⟩ := hst.receptionist_idle hT hS
  obtain ⟨hW, hC, hwp, hop, -⟩ := hst.kitchen_idle hT hS hK hwr
  have hrlen : s.ghost.receptionistReads.length = 2 * nGroups := by
    have hm := hS.mail
    rw [hrp, List.replicate_zero, List.append_nil] at hm
    rw [hm]
    refine length_eq_of_shares hS.writes_lt fun g hg => ?_
    obtain ⟨t, e⟩ := hex g hg
    rw [hS.writes g hg, e]; rfl
  have hwlen : s.ghost.waiterReads.length = 2 * nGroups := by
    have hm := hK.mail
    rw [hwp, List.replicate_zero, List.append_nil] at hm
    rw [hm]
    refine length_eq_of_shares hK.writes_lt fun g hg => ?_
    obtain ⟨t, e⟩ := hex g hg
    have hc := hK.cooked_of_served hg (hK.eaten g hg (by simp [e, GroupPc.idx]))
    rw [hK.writes g hg, e]
    simp [cookedWrites, hc, GroupPc.waiterWrites, GroupPc.idx]
  have hclen : nGroups ≤ s.chefOrders := by
    have hm := hK.orders
    rw [hop, List.replicate_zero, List.append_nil] at hm
    have := hK.cooked
    rw [hC, hm] at this
    have := le_length_of_nodup hK.nodup fun g hg => by
      obtain ⟨t, e⟩ := hex g hg
      rw [hK.ordered]
      exact List.mem_append_left _ (hK.informed g hg (by simp [e, GroupPc.idx]))
    simp only [ChefPc.busy, Bool.toNat_false] at *
    omega
  have hRh : s.receptionist = .waitForGroup := hR.resolve_right fun e => by
    have := hS.served
    have := hS.bounded.2 (by rw [e]; decide)
    simp only [e, ReceptionistPc.busy, Bool.toNat_false] at *
    omega
  have hWh : s.waiter = .waitForClientOrChef := hW.resolve_right fun e => by
    have := hK.served
    have := hK.bounded.2 (by rw [e]; decide)
    simp only [e, WaiterPc.busy, Bool.toNat_false] at *
    omega
  refine ⟨fun g hg => ⟨?_, hex g hg⟩, hRh, ?_, hWh, ?_, hC, ?_⟩
  · obtain ⟨t, e⟩ := hex g hg
    rw [(hS.phase g hg).stat, e]; rfl
  · have := hS.served
    simp only [hRh, ReceptionistPc.busy, Bool.toNat_false] at this
    omega
  · have := hK.served
    simp only [hWh, WaiterPc.busy, Bool.toNat_false] at this
    omega
  · have := hK.chefBounded.1
    omega

end Idle

/-- **A stuck state is final**, with at least one table and at most two
tables or two groups. -/
theorem final (hsmall : NUMTABLES ≤ 2 ∨ nGroups ≤ 2) (hT1 : 1 ≤ NUMTABLES) : Final nGroups s :=
  hst.final_of_idle hT hS hK (hst.waiterRequest_eq_zero hT hS hK hsmall) hT1

end Stuck

end Restaurant
