import Restaurant.Seating.Preserved
import Mathlib.Data.List.Nodup
/-!
# Restaurant — the waiter's and the chef's invariant

What holds between the groups, the waiter's mailbox, the chef's order
slot (`foodOrder`/`foodGroup`) and the two per-table food semaphores, in
every reachable state. It is the kitchen's half of what `Seating` is for
the receptionist.

The waiter's mailbox is accounted for by its history: every value read
is the next one written (`mail`); each group writes its `FOODREQ` and the
chef the group's `FOODREADY`, after taking its order (`writes`); and what
the waiter has served is what the ghost lists `informed` and `served`
record, plus the request it carries (`reads`). The order slot is
accounted for the same way (`orders`), every order being one the waiter
has announced or is announcing (`ordered`). Each `requestReceived[t]`
token is owed to the group waiting at table `t` that the waiter has
informed, each `foodArrived[t]` token to the group at table `t` it has
served (`requestReceived`, `foodArrived`).
-/

namespace Restaurant

namespace GroupPc

/-- What a group has written into `waiterRequest`, by its point. -/
def waiterWrites (g : Nat) (p : GroupPc) : List Request :=
  if p.idx < 7 then [] else [⟨.FOODREQ, g⟩]

end GroupPc

namespace WaiterPc

/-- The request the waiter has copied out of its mailbox and is serving. -/
def holds : WaiterPc → Option Request
  | .waitForClientOrChefReadLeave r | .waitForClientOrChefRelease r => some r
  | .informChef g | .informChefLeave g _ | .informChefSignal g _ => some ⟨.FOODREQ, g⟩
  | .takeFoodToTable g | .takeFoodToTableSignal g _ => some ⟨.FOODREADY, g⟩
  | _ => none

/-- The request of group `g` the waiter carries, if any. -/
def holdsFor (g : Nat) (w : WaiterPc) : List Request :=
  match w.holds with
  | some q => if q.reqGroup = g then [q] else []
  | none => []

/-- The order `informChef` has stored and whose group it has not yet
signalled on `requestReceived`. -/
def informing : WaiterPc → Option Nat
  | .informChefLeave g _ | .informChefSignal g _ => some g
  | _ => none

/-- The order `informChef` has stored in `foodGroup` and is still
handing over. -/
def order? : WaiterPc → Option Nat
  | .informChefLeave g _ | .informChefSignal g _ | .informChefOrder g | .informChefWait g => some g
  | _ => none

/-- The group and the table a per-table signal of the waiter is for. -/
def target : WaiterPc → Option (Nat × Int)
  | .informChefLeave g t | .informChefSignal g t | .takeFoodToTableSignal g t => some (g, t)
  | _ => none

end WaiterPc

/-- The `FOODREADY` the chef has posted for group `g`: it has taken
`g`'s order and is done with it. -/
def cookedWrites (s : State) (g : Nat) : List Request :=
  if g ∈ s.ghost.orderReads ∧ s.chef.holds ≠ some g then [⟨.FOODREADY, g⟩] else []

/-- The requests of group `g` the waiter has served. -/
def foodReads (s : State) (g : Nat) : List Request :=
  (if g ∈ s.ghost.informed then [⟨.FOODREQ, g⟩] else []) ++
    (if g ∈ s.ghost.served then [⟨.FOODREADY, g⟩] else [])

/-- Written into `waiterRequest` and not yet copied out. -/
def waiterPending (nGroups : Nat) (s : State) : Nat :=
  countAt nGroups GroupPc.postsWaiter s.group + s.chef.posts.toNat + s.sem .waiterRequest
    + s.waiter.reads.toNat

/-- Stored into `foodGroup` and not yet taken by the chef. -/
def orderPending (s : State) : Nat :=
  s.waiter.ordering.toNat + s.sem .waitOrder + s.chef.reads.toNat

/-- **The kitchen's invariant.** -/
structure Kitchen (NUMTABLES nGroups : Nat) (s : State) : Prop where
  mail : s.ghost.waiterReads ++ List.replicate (waiterPending nGroups s) s.waiterRequest =
    s.ghost.waiterWrites
  writes : ∀ g, g < nGroups →
    s.ghost.waiterWrites.filter (·.reqGroup == g) = (s.group g).waiterWrites g ++ cookedWrites s g
  writes_lt : ∀ r ∈ s.ghost.waiterWrites, r.reqGroup < nGroups
  reads : ∀ g, g < nGroups →
    s.ghost.waiterReads.filter (·.reqGroup == g) = foodReads s g ++ s.waiter.holdsFor g
  orders : s.ghost.orderReads ++ List.replicate (orderPending s) s.foodGroup = s.ghost.orderWrites
  ordered : s.ghost.orderWrites = s.ghost.informed ++ s.waiter.informing.toList
  ordered_lt : ∀ g ∈ s.ghost.orderWrites, g < nGroups
  nodup : s.ghost.orderWrites.Nodup
  slot : ∀ g, s.waiter.order? = some g → s.foodGroup = g
  chef : ∀ g, s.chef.holds = some g → g ∈ s.ghost.orderReads
  holds_lt : ∀ r, s.waiter.holds = some r → r.reqGroup < nGroups
  table : ∀ g t, s.waiter.target = some (g, t) → s.assignedTable g = t
  early : ∀ g, g < nGroups → (s.group g).idx ≤ 8 →
    g ∉ s.ghost.informed ∧ s.waiter.holdsFor g = []
  informed : ∀ g, g < nGroups → 10 ≤ (s.group g).idx → g ∈ s.ghost.informed
  eaten : ∀ g, g < nGroups → 13 ≤ (s.group g).idx → g ∈ s.ghost.served
  requestReceived : ∀ t, s.sem (.requestReceived t) = countGroups nGroups fun g =>
    decide ((s.group g).idx = 9 ∧ (s.group g).table? = some t ∧ g ∈ s.ghost.informed)
  foodArrived : ∀ t, s.sem (.foodArrived t) = countGroups nGroups fun g =>
    decide (g ∈ s.ghost.served ∧ (s.group g).idx ≤ 12 ∧ s.assignedTable g = t)
  served : s.waiterReqs + s.waiter.busy.toNat = s.ghost.waiterReads.length
  bounded : s.waiterReqs ≤ 2 * nGroups ∧
    (s.waiter ≠ .waitForClientOrChef → s.waiterReqs < 2 * nGroups)
  cooked : s.chefOrders + s.chef.busy.toNat = s.ghost.orderReads.length
  chefBounded : s.chefOrders ≤ nGroups ∧ (s.chef ≠ .waitForOrder → s.chefOrders < nGroups)

variable {NUMTABLES nGroups : Nat}

theorem kitchen_initial {s : State} (h : Initial s) : Kitchen NUMTABLES nGroups s := by
  have hpend : waiterPending nGroups s = 0 := by
    simp [waiterPending, h.sem, initialSem, h.waiter, h.chef, WaiterPc.reads, ChefPc.posts,
      countAt, h.group, GroupPc.postsWaiter, countGroups]
  have hord : orderPending s = 0 := by
    simp [orderPending, h.sem, initialSem, h.waiter, h.chef, WaiterPc.ordering, ChefPc.reads]
  refine ⟨?mail, ?writes, ?writes_lt, ?reads, ?orders, ?ordered, ?ordered_lt, ?nodup, ?slot, ?chef,
    ?hlt, ?table, ?early, ?informed, ?eaten, ?rr, ?fa, ?served, ?bnd, ?cooked, ?cbnd⟩
  all_goals simp_all [h.ghost, h.waiter, h.chef, h.sem, initialSem, h.group, h.waiterReqs,
    h.chefOrders, GroupPc.waiterWrites, GroupPc.idx, cookedWrites, foodReads, WaiterPc.holdsFor,
    WaiterPc.holds, WaiterPc.informing, WaiterPc.order?, WaiterPc.target, WaiterPc.busy,
    ChefPc.holds, ChefPc.busy, countGroups]

/-! ## Reading the points -/

theorem GroupPc.semOp_eq_requestReceived {g : Nat} {t : Int} {p : GroupPc}
    (e : p.semOp g = .requestReceived t) : p = .orderFoodWait t := by
  cases p <;> simp_all [GroupPc.semOp]

theorem GroupPc.semOp_eq_foodArrived {g : Nat} {t : Int} {p : GroupPc}
    (e : p.semOp g = .foodArrived t) : p = .waitFoodWait t := by
  cases p <;> simp_all [GroupPc.semOp]

theorem GroupPc.eq_orderFoodWait {p : GroupPc} (h : p.idx = 9) : ∃ t, p = .orderFoodWait t := by
  cases p <;> simp_all [GroupPc.idx]

theorem GroupPc.eq_waitFoodWait {p : GroupPc} (h : p.idx = 12) : ∃ t, p = .waitFoodWait t := by
  cases p <;> simp_all [GroupPc.idx]

theorem GroupPc.semOp_ne_waitOrder (g : Nat) (p : GroupPc) : p.semOp g ≠ .waitOrder := by
  cases p <;> simp [GroupPc.semOp]

/-- The point that writes the waiter's mailbox holds its permit and has
not yet posted. -/
theorem GroupPc.posting_waiter {p : GroupPc} (h : p.idx = 6) :
    p.holdsWaiterSlot = true ∧ p.postsWaiter = false := by
  cases p <;> simp_all [GroupPc.idx, GroupPc.holdsWaiterSlot, GroupPc.postsWaiter]

/-- Between writing its `FOODREQ` and releasing `mutex`, a group holds it. -/
theorem GroupPc.idx_ne_of_holdsMutex {p : GroupPc} (h : p.holdsMutex = false) :
    p.idx ≠ 7 ∧ p.idx ≠ 8 := by
  cases p <;> simp_all [GroupPc.holdsMutex, GroupPc.idx]

/-- Away from its write, a step keeps what the group has written. -/
theorem GroupPc.waiterWrites_succ {g : Nat} {p p' : GroupPc} (e : p'.idx = p.idx + 1)
    (h6 : p.idx ≠ 6) : p'.waiterWrites g = p.waiterWrites g := by
  unfold GroupPc.waiterWrites; rw [e]; split_ifs <;> first | rfl | omega

theorem WaiterPc.holdsFor_of_holds {w : WaiterPc} {r : Request} (h : w.holds = some r) :
    w.holdsFor r.reqGroup = [r] := by
  simp [WaiterPc.holdsFor, h]

theorem waiterPending_le_one {s : State} (hT : Tokens nGroups s) : waiterPending nGroups s ≤ 1 := by
  have := hT.waiterSlot
  have h1 := @countAt_mono nGroups GroupPc.postsWaiter GroupPc.holdsWaiterSlot
    (fun p => by cases p <;> simp [GroupPc.postsWaiter, GroupPc.holdsWaiterSlot]) s.group
  have h2 : s.waiter.reads.toNat ≤ s.waiter.holdsSlot.toNat := by
    cases s.waiter <;> simp [WaiterPc.reads, WaiterPc.holdsSlot]
  have h3 : s.chef.posts.toNat ≤ s.chef.holdsSlot.toNat := by
    cases s.chef <;> simp [ChefPc.posts, ChefPc.holdsSlot]
  unfold waiterPending
  omega

/-- Nothing is pending while a group holds the permit before posting. -/
theorem waiterPending_eq_zero {s : State} (hT : Tokens nGroups s) {g : Nat} (hg : g < nGroups)
    (hh : (s.group g).holdsWaiterSlot = true) (hp : (s.group g).postsWaiter = false) :
    waiterPending nGroups s = 0 := by
  have := hT.waiterSlot
  have h1 : countAt nGroups GroupPc.postsWaiter s.group <
      countAt nGroups GroupPc.holdsWaiterSlot s.group :=
    countGroups_lt (fun i _ hi => by revert hi; cases s.group i <;>
      simp [GroupPc.postsWaiter, GroupPc.holdsWaiterSlot]) hg hh hp
  have h2 : s.waiter.reads.toNat ≤ s.waiter.holdsSlot.toNat := by
    cases s.waiter <;> simp [WaiterPc.reads, WaiterPc.holdsSlot]
  have h3 : s.chef.posts.toNat ≤ s.chef.holdsSlot.toNat := by
    cases s.chef <;> simp [ChefPc.posts, ChefPc.holdsSlot]
  unfold waiterPending
  omega

theorem orderPending_le_one {s : State} (hT : Tokens nGroups s) : orderPending s ≤ 1 := by
  have := hT.order
  have h1 : s.chef.reads.toNat ≤ s.chef.handshake.toNat := by
    cases s.chef <;> simp [ChefPc.reads, ChefPc.handshake]
  have h2 : s.waiter.ordering.toNat + s.waiter.awaitsChef.toNat ≤ 1 := by
    cases s.waiter <;> simp [WaiterPc.ordering, WaiterPc.awaitsChef]
  have h3 : s.waiter.ordering = true → s.waiter.awaitsChef = false := by
    cases s.waiter <;> simp [WaiterPc.ordering, WaiterPc.awaitsChef]
  unfold orderPending
  cases e : s.waiter.ordering
  · simp only [Bool.toNat_false]; omega
  · rw [h3 e] at this; simp only [Bool.toNat_true, Bool.toNat_false] at this ⊢; omega

/-! ## What the waiter and the chef carry -/

namespace Kitchen

variable {s : State} (hK : Kitchen NUMTABLES nGroups s)
include hK

/-- **Group `g`'s share of the waiter's mailbox history**: what the
waiter has served, what it carries and what is still in the mailbox is
exactly what `g` and the chef have written for `g`. -/
theorem history {g : Nat} (hg : g < nGroups) :
    foodReads s g ++ s.waiter.holdsFor g ++
      (List.replicate (waiterPending nGroups s) s.waiterRequest).filter (·.reqGroup == g) =
    (s.group g).waiterWrites g ++ cookedWrites s g := by
  rw [← hK.reads g hg, ← List.filter_append, hK.mail, hK.writes g hg]

/-- Every order stored is that of a group past posting its `FOODREQ`
and its release of `mutex`. -/
theorem mem_orderWrites {g : Nat} (h : g ∈ s.ghost.orderWrites) :
    g < nGroups ∧ 9 ≤ (s.group g).idx := by
  have hg := hK.ordered_lt g h
  refine ⟨hg, Nat.not_lt.1 fun hlt => ?_⟩
  obtain ⟨hI, hw⟩ := hK.early g hg (by omega)
  rw [hK.ordered, List.mem_append] at h
  rcases h with h | h
  · exact hI h
  · cases e : s.waiter <;> simp [e, WaiterPc.informing] at h <;> subst h <;>
      simp [e, WaiterPc.holdsFor, WaiterPc.holds] at hw

theorem mem_orderReads {g : Nat} (h : g ∈ s.ghost.orderReads) : g ∈ s.ghost.orderWrites := by
  rw [← hK.orders]; exact List.mem_append_left _ h

/-- A served group's `FOODREADY` has been posted. -/
theorem cooked_of_served {g : Nat} (hg : g < nGroups) (h : g ∈ s.ghost.served) :
    g ∈ s.ghost.orderReads ∧ s.chef.holds ≠ some g := by
  have hm : (⟨.FOODREADY, g⟩ : Request) ∈ s.ghost.waiterWrites.filter (·.reqGroup == g) := by
    have hr : (⟨.FOODREADY, g⟩ : Request) ∈ s.ghost.waiterReads.filter (·.reqGroup == g) := by
      rw [hK.reads g hg]; simp [foodReads, h]
    refine List.mem_filter.2 ⟨?_, (List.mem_filter.1 hr).2⟩
    rw [← hK.mail]; exact List.mem_append_left _ (List.mem_filter.1 hr).1
  rw [hK.writes g hg] at hm
  unfold GroupPc.waiterWrites cookedWrites at hm
  split_ifs at hm with h1 h2 h2 <;> simp_all

/-- A served group has been informed, so it is past posting its order. -/
theorem idx_of_served {g : Nat} (hg : g < nGroups) (h : g ∈ s.ghost.served) :
    9 ≤ (s.group g).idx :=
  (hK.mem_orderWrites (hK.mem_orderReads (hK.cooked_of_served hg h).1)).2

/-- Before its order, the chef has posted nothing for a group. -/
theorem cookedWrites_eq_nil {g : Nat} (h : (s.group g).idx ≤ 8) :
    cookedWrites s g = [] := by
  unfold cookedWrites
  rw [if_neg]
  rintro ⟨hr, -⟩
  have := (hK.mem_orderWrites (hK.mem_orderReads hr)).2
  omega

/-- The `FOODREQ` the waiter carries is that of a group waiting on
`requestReceived` that it has not yet informed. -/
theorem holds_foodReq {g : Nat} (h : s.waiter.holds = some ⟨.FOODREQ, g⟩) :
    g < nGroups ∧ (s.group g).idx = 9 ∧ g ∉ s.ghost.informed ∧ g ∉ s.ghost.served := by
  have hg : g < nGroups := hK.holds_lt _ h
  have hist := hK.history hg
  rw [WaiterPc.holdsFor_of_holds h] at hist
  have key : g ∉ s.ghost.informed ∧ g ∉ s.ghost.served ∧ 7 ≤ (s.group g).idx := by
    unfold foodReads GroupPc.waiterWrites cookedWrites at hist
    split_ifs at hist <;> simp at hist <;> simp_all
  obtain ⟨hI, hSv, h7⟩ := key
  have h9 : 9 ≤ (s.group g).idx := Nat.not_lt.1 fun hlt => by
    simpa [WaiterPc.holdsFor_of_holds h] using (hK.early g hg (by omega)).2
  exact ⟨hg, by have := mt (hK.informed g hg) hI; omega, hI, hSv⟩

/-- The `FOODREADY` the waiter carries is that of an informed group the
chef has cooked for and that it has not yet served. -/
theorem holds_foodReady {g : Nat} (h : s.waiter.holds = some ⟨.FOODREADY, g⟩) :
    g < nGroups ∧ 9 ≤ (s.group g).idx ∧ (s.group g).idx ≤ 12 ∧ g ∈ s.ghost.informed ∧
      g ∉ s.ghost.served ∧ g ∈ s.ghost.orderReads ∧ s.chef.holds ≠ some g := by
  have hg : g < nGroups := hK.holds_lt _ h
  have hist := hK.history hg
  rw [WaiterPc.holdsFor_of_holds h] at hist
  have key : g ∉ s.ghost.served ∧ g ∈ s.ghost.orderReads ∧ s.chef.holds ≠ some g := by
    unfold foodReads GroupPc.waiterWrites cookedWrites at hist
    split_ifs at hist <;> simp at hist <;> simp_all
  obtain ⟨hSv, hor, hch⟩ := key
  have h9 := (hK.mem_orderWrites (hK.mem_orderReads hor)).2
  have hI : g ∈ s.ghost.informed := by
    have := hK.mem_orderReads hor
    rw [hK.ordered, List.mem_append] at this
    refine this.resolve_right fun hm => ?_
    cases e : s.waiter <;> simp [e, WaiterPc.informing, WaiterPc.holds] at hm h
  exact ⟨hg, h9, by have := mt (hK.eaten g hg) hSv; omega, hI, hSv, hor, hch⟩

/-- The waiter only ever carries food requests. -/
theorem holds_kind {r : Request} (h : s.waiter.holds = some r) :
    r = ⟨.FOODREQ, r.reqGroup⟩ ∨ r = ⟨.FOODREADY, r.reqGroup⟩ := by
  have hmem : r ∈ (s.group r.reqGroup).waiterWrites r.reqGroup ++ cookedWrites s r.reqGroup := by
    rw [← hK.history (hK.holds_lt r h), WaiterPc.holdsFor_of_holds h]; simp
  unfold GroupPc.waiterWrites cookedWrites at hmem
  split_ifs at hmem <;> simp at hmem <;> first | exact hmem | exact .inl hmem | exact .inr hmem

/-- A request in the waiter's mailbox history is a group's `FOODREQ` or
the `FOODREADY` the chef posted for it; once the writer has released
`mutex`, its group is past `orderFood`'s critical section. -/
theorem idx_of_written {r : Request} (hm : r ∈ s.ghost.waiterWrites)
    (hfree : (s.group r.reqGroup).holdsMutex = false) : 9 ≤ (s.group r.reqGroup).idx := by
  have hg := hK.writes_lt r hm
  by_cases hc : r.reqGroup ∈ s.ghost.orderReads
  · exact (hK.mem_orderWrites (hK.mem_orderReads hc)).2
  · have hf : r ∈ s.ghost.waiterWrites.filter (·.reqGroup == r.reqGroup) :=
      List.mem_filter.2 ⟨hm, by simp⟩
    rw [hK.writes _ hg] at hf
    have h7 : 7 ≤ (s.group r.reqGroup).idx := by
      unfold GroupPc.waiterWrites cookedWrites at hf
      split_ifs at hf with h7 hc' <;> first | omega | exact absurd hc'.1 hc | simp at hf
    have := GroupPc.idx_ne_of_holdsMutex hfree
    omega

end Kitchen

end Restaurant
