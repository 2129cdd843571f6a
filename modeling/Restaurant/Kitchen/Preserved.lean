import Restaurant.Kitchen.WaiterStep
/-!
# Restaurant — the kitchen's invariant in every reachable state

The chef's steps keep the invariant: its two that do more than move a
token take the pending order out of the slot (`Kitchen.takeOrder`) and
post the group's `FOODREADY` (`Kitchen.postReady`). The receptionist
touches nothing the invariant reads but `assignedTable`, and only of a
group outside its food phase. With `Tokens` and `Seating`, `Kitchen`
holds of every reachable state (`kitchen_reachable`).
-/

namespace Restaurant

open State

variable {NUMTABLES nGroups : Nat} {s s' : State}

/-- A chef's step that moves only its point, its order count and
semaphores the invariant does not read, or whose token it hands on. -/
theorem Kitchen.chefMove (hK : Kitchen NUMTABLES nGroups s) {σ : Sem → Nat} {c : ChefPc}
    {k : Nat}
    (hrr : ∀ t, σ (.requestReceived t) = s.sem (.requestReceived t))
    (hfa : ∀ t, σ (.foodArrived t) = s.sem (.foodArrived t))
    (hpend : c.posts.toNat + σ .waiterRequest = s.chef.posts.toNat + s.sem .waiterRequest)
    (hopend : σ .waitOrder + c.reads.toNat = s.sem .waitOrder + s.chef.reads.toNat)
    (hholds : c.holds = s.chef.holds) (hserved : k + c.busy.toNat = s.chefOrders + s.chef.busy.toNat)
    (hbnd : k ≤ nGroups ∧ (c ≠ .waitForOrder → k < nGroups)) :
    Kitchen NUMTABLES nGroups { s with sem := σ, chef := c, chefOrders := k } :=
  hK.congr rfl (fun _ _ _ _ => rfl) rfl rfl rfl rfl rfl rfl rfl rfl
    (by unfold waiterPending; dsimp only; omega) (by unfold orderPending; dsimp only; omega)
    hrr hfa rfl rfl (fun _ e => e) hK.table (by rfl) hK.bounded hholds hserved hbnd

/-- **Taking an order keeps the invariant**: the order taken is the one
pending, so the chef has posted nothing for it yet. -/
theorem Kitchen.takeOrder (hT : Tokens nGroups s) (hK : Kitchen NUMTABLES nGroups s)
    (hp : s.chef = .waitForOrderRead) :
    Kitchen NUMTABLES nGroups
      { s with sem := Function.update s.sem .mutex (s.sem .mutex - 1)
               foodOrder := 0
               chef := .waitForOrderLeave s.foodGroup
               ghost := { s.ghost with orderReads := s.ghost.orderReads ++ [s.foodGroup] } } := by
  have hpend1 : orderPending s = 1 :=
    le_antisymm (orderPending_le_one hT) (by simp [orderPending, hp, ChefPc.reads])
  have hm := hK.orders
  rw [hpend1, List.replicate_one] at hm
  have hfresh : s.foodGroup ∉ s.ghost.orderReads := by
    have := hK.nodup
    rw [← hm] at this
    exact fun h => (List.nodup_append.1 this).2.2 h (List.mem_singleton_self _)
  have hcb := hK.chefBounded
  have hcooked := hK.cooked
  rw [hp] at hcb hcooked
  generalize hs' : { s with
    sem := Function.update s.sem .mutex (s.sem .mutex - 1)
    foodOrder := 0
    chef := .waitForOrderLeave s.foodGroup
    ghost := { s.ghost with orderReads := s.ghost.orderReads ++ [s.foodGroup] } } = s'
  have hsem : ∀ x, x ≠ .mutex → s'.sem x = s.sem x := fun x hx => by
    rw [← hs']; exact Function.update_noteq hx _ _
  have hC : s'.chef = .waitForOrderLeave s.foodGroup := by rw [← hs']
  have hor : s'.ghost.orderReads = s.ghost.orderReads ++ [s.foodGroup] := by rw [← hs']
  have hcook : ∀ i, cookedWrites s' i = cookedWrites s i := fun i => by
    unfold cookedWrites
    rw [hor, hC, hp]
    by_cases hi : i = s.foodGroup
    · subst hi; simp [ChefPc.holds, hfresh]
    · simp [ChefPc.holds, hi, Ne.symm hi]
  have hpend : waiterPending nGroups s' = waiterPending nGroups s := by
    rw [← hs']
    simp only [waiterPending, hp, ChefPc.posts,
      Function.update_noteq (show Sem.waiterRequest ≠ .mutex by simp)]
  have hopend : orderPending s' = 0 := by
    have e : orderPending s = orderPending s' + 1 := by
      rw [← hs']
      simp only [orderPending, hp, Function.update_noteq (show Sem.waitOrder ≠ .mutex by simp),
        ChefPc.reads, Bool.toNat_true, Bool.toNat_false]
    omega
  constructor
  case mail => rw [hpend, ← hs']; exact hK.mail
  case writes => intro i hi; rw [hcook, ← hs']; exact hK.writes i hi
  case writes_lt => rw [← hs']; exact hK.writes_lt
  case reads => intro i hi; rw [show foodReads s' i = foodReads s i by rw [← hs']; rfl, ← hs']
                exact hK.reads i hi
  case orders =>
    rw [hopend, List.replicate_zero, List.append_nil, hor, ← hs']; exact hm
  case ordered => rw [← hs']; exact hK.ordered
  case ordered_lt => rw [← hs']; exact hK.ordered_lt
  case nodup => rw [← hs']; exact hK.nodup
  case slot => rw [← hs']; exact hK.slot
  case chef =>
    intro i e
    rw [hC] at e
    simp only [ChefPc.holds, Option.some.injEq] at e
    rw [hor, ← e]
    exact List.mem_append_right _ (List.mem_singleton_self _)
  case holds_lt => rw [← hs']; exact hK.holds_lt
  case table => rw [← hs']; exact hK.table
  case early => rw [← hs']; exact hK.early
  case informed => rw [← hs']; exact hK.informed
  case eaten => rw [← hs']; exact hK.eaten
  case requestReceived => intro t; rw [hsem _ (by simp), ← hs']; exact hK.requestReceived t
  case foodArrived => intro t; rw [hsem _ (by simp), ← hs']; exact hK.foodArrived t
  case served => rw [← hs']; exact hK.served
  case bounded => rw [← hs']; exact hK.bounded
  case cooked =>
    rw [hC, hor, show s'.chefOrders = s.chefOrders by rw [← hs']]
    simp only [ChefPc.busy, Bool.toNat_true, List.length_append, List.length_singleton]
    simp only [ChefPc.busy, Bool.toNat_false] at hcooked
    omega
  case chefBounded =>
    rw [hC, show s'.chefOrders = s.chefOrders by rw [← hs']]
    exact ⟨hcb.1, fun _ => hcb.2 (by simp)⟩

/-- **Posting `FOODREADY` keeps the invariant**: the chef holds the
mailbox's permit, so the mailbox is empty, and the group it posts for is
the one whose order it took. -/
theorem Kitchen.postReady (hT : Tokens nGroups s) (hK : Kitchen NUMTABLES nGroups s) {g : Nat}
    (hp : s.chef = .processOrderMutex g) :
    Kitchen NUMTABLES nGroups
      { s with sem := Function.update s.sem .mutex (s.sem .mutex - 1)
               waiterRequest := ⟨.FOODREADY, g⟩
               chef := .processOrderPost g
               ghost := { s.ghost with
                 waiterWrites := s.ghost.waiterWrites ++ [⟨.FOODREADY, g⟩] } } := by
  have hor := hK.chef g (by rw [hp]; rfl)
  have hg := (hK.mem_orderWrites (hK.mem_orderReads hor)).1
  have hpend0 : waiterPending nGroups s = 0 := by
    have := hT.waiterSlot
    have h1 := @countAt_mono nGroups GroupPc.postsWaiter GroupPc.holdsWaiterSlot
      (fun p => by cases p <;> simp [GroupPc.postsWaiter, GroupPc.holdsWaiterSlot]) s.group
    have h2 : s.waiter.reads.toNat ≤ s.waiter.holdsSlot.toNat := by
      cases s.waiter <;> simp [WaiterPc.reads, WaiterPc.holdsSlot]
    simp only [hp, ChefPc.holdsSlot, Bool.toNat_true] at this
    simp only [waiterPending, hp, ChefPc.posts, Bool.toNat_false]
    omega
  have hm := hK.mail
  rw [hpend0, List.replicate_zero, List.append_nil] at hm
  generalize hs' : { s with
    sem := Function.update s.sem .mutex (s.sem .mutex - 1)
    waiterRequest := ⟨.FOODREADY, g⟩
    chef := .processOrderPost g
    ghost := { s.ghost with
      waiterWrites := s.ghost.waiterWrites ++ [(⟨.FOODREADY, g⟩ : Request)] } } = s'
  have hsem : ∀ x, x ≠ .mutex → s'.sem x = s.sem x := fun x hx => by
    rw [← hs']; exact Function.update_noteq hx _ _
  have hC : s'.chef = .processOrderPost g := by rw [← hs']
  have hww : s'.ghost.waiterWrites = s.ghost.waiterWrites ++ [⟨.FOODREADY, g⟩] := by rw [← hs']
  have hpend1 : waiterPending nGroups s' = 1 := by
    have e : waiterPending nGroups s' = waiterPending nGroups s + 1 := by
      rw [← hs']
      simp only [waiterPending, hp, Function.update_noteq (show Sem.waiterRequest ≠ .mutex by simp),
        ChefPc.posts, Bool.toNat_true, Bool.toNat_false]
      omega
    omega
  constructor
  case mail =>
    rw [hpend1, List.replicate_one, hww, ← hm, show s'.waiterRequest = ⟨.FOODREADY, g⟩ by rw [← hs']]
    rw [← hs']
  case writes =>
    intro i hi
    rw [hww, List.filter_append, hK.writes i hi, show s'.group = s.group by rw [← hs']]
    unfold cookedWrites
    rw [hC, hp, show s'.ghost.orderReads = s.ghost.orderReads by rw [← hs']]
    by_cases hig : i = g
    · subst hig; simp [ChefPc.holds, hor]
    · simp [ChefPc.holds, Ne.symm hig]
  case writes_lt =>
    intro r hr
    rw [hww, List.mem_append, List.mem_singleton] at hr
    rcases hr with hr | rfl
    · exact hK.writes_lt r hr
    · exact hg
  case reads =>
    intro i hi
    rw [show foodReads s' i = foodReads s i by rw [← hs']; rfl, ← hs']
    exact hK.reads i hi
  case orders =>
    rw [show orderPending s' = orderPending s by
      rw [← hs']; simp only [orderPending, hp, ChefPc.reads,
        Function.update_noteq (show Sem.waitOrder ≠ .mutex by simp)], ← hs']
    exact hK.orders
  case ordered => rw [← hs']; exact hK.ordered
  case ordered_lt => rw [← hs']; exact hK.ordered_lt
  case nodup => rw [← hs']; exact hK.nodup
  case slot => rw [← hs']; exact hK.slot
  case chef => intro i e; rw [hC] at e; cases e
  case holds_lt => rw [← hs']; exact hK.holds_lt
  case table => rw [← hs']; exact hK.table
  case early => rw [← hs']; exact hK.early
  case informed => rw [← hs']; exact hK.informed
  case eaten => rw [← hs']; exact hK.eaten
  case requestReceived => intro t; rw [hsem _ (by simp), ← hs']; exact hK.requestReceived t
  case foodArrived => intro t; rw [hsem _ (by simp), ← hs']; exact hK.foodArrived t
  case served => rw [← hs']; exact hK.served
  case bounded => rw [← hs']; exact hK.bounded
  case cooked => have := hK.cooked; rw [hp] at this; rw [hC, ← hs']; exact this
  case chefBounded =>
    have := hK.chefBounded; rw [hp] at this; rw [hC, ← hs']; exact ⟨this.1, fun _ => this.2 (by simp)⟩

/-- **The chef's step keeps the kitchen's invariant.** -/
theorem Kitchen.chefStep (hT : Tokens nGroups s) (hK : Kitchen NUMTABLES nGroups s)
    (h : chefStep nGroups s = some s') : Kitchen NUMTABLES nGroups s' := by
  have hcb := hK.chefBounded
  have hne : s.chef ≠ .waitForOrder → s.chefOrders < nGroups := hcb.2
  cases hp : s.chef with
  | waitForOrder =>
    simp only [Restaurant.chefStep, hp] at h
    split at h
    · rename_i hlt
      simp only [Option.map_eq_some', down_eq_some] at h
      obtain ⟨_, ⟨h0, rfl⟩, rfl⟩ := h
      exact hK.chefMove
        (fun t => Function.update_noteq (show Sem.requestReceived t ≠ .waitOrder by simp)
          (s.sem .waitOrder - 1) s.sem)
        (fun t => Function.update_noteq (show Sem.foodArrived t ≠ .waitOrder by simp)
          (s.sem .waitOrder - 1) s.sem)
        (by simp [Function.update_noteq, hp, ChefPc.posts])
        (by simp only [hp, Function.update_same, ChefPc.reads, Bool.toNat_true, Bool.toNat_false]
            omega)
        (by rw [hp]; rfl) (by rw [hp]; rfl) ⟨hcb.1, fun _ => hlt⟩
    · cases h
  | waitForOrderRead =>
    simp only [Restaurant.chefStep, hp, Option.map_eq_some', down_eq_some] at h
    obtain ⟨_, ⟨-, rfl⟩, rfl⟩ := h
    exact hK.takeOrder hT hp
  | waitForOrderLeave g =>
    simp only [Restaurant.chefStep, hp, Option.some.injEq] at h
    subst h
    exact hK.chefMove (fun _ => up_sem_of_ne _ (by simp)) (fun _ => up_sem_of_ne _ (by simp))
      (by simp [hp, ChefPc.posts]) (by simp [hp, ChefPc.reads]) (by rw [hp]; rfl) (by rw [hp]; rfl)
      ⟨hcb.1, fun _ => hne (by simp [hp])⟩
  | waitForOrderAck g =>
    simp only [Restaurant.chefStep, hp, Option.some.injEq] at h
    subst h
    exact hK.chefMove (fun _ => up_sem_of_ne _ (by simp)) (fun _ => up_sem_of_ne _ (by simp))
      (by simp [hp, ChefPc.posts]) (by simp [hp, ChefPc.reads]) (by rw [hp]; rfl) (by rw [hp]; rfl)
      ⟨hcb.1, fun _ => hne (by simp [hp])⟩
  | processOrder g =>
    simp only [Restaurant.chefStep, hp, Option.map_eq_some', down_eq_some] at h
    obtain ⟨_, ⟨-, rfl⟩, rfl⟩ := h
    exact hK.chefMove
      (fun t => Function.update_noteq (show Sem.requestReceived t ≠ .waiterRequestPossible by simp)
        (s.sem .waiterRequestPossible - 1) s.sem)
      (fun t => Function.update_noteq (show Sem.foodArrived t ≠ .waiterRequestPossible by simp)
        (s.sem .waiterRequestPossible - 1) s.sem)
      (by simp [Function.update_noteq, hp, ChefPc.posts])
      (by simp [Function.update_noteq, hp, ChefPc.reads]) (by rw [hp]; rfl) (by rw [hp]; rfl)
      ⟨hcb.1, fun _ => hne (by simp [hp])⟩
  | processOrderMutex g =>
    simp only [Restaurant.chefStep, hp, Option.map_eq_some', down_eq_some] at h
    obtain ⟨_, ⟨-, rfl⟩, rfl⟩ := h
    exact hK.postReady hT hp
  | processOrderPost g =>
    simp only [Restaurant.chefStep, hp, Option.some.injEq] at h
    subst h
    exact hK.chefMove (fun _ => up_sem_of_ne _ (by simp)) (fun _ => up_sem_of_ne _ (by simp))
      (by simp only [hp, up_sem_self, ChefPc.posts, Bool.toNat_true, Bool.toNat_false]; omega)
      (by simp [hp, ChefPc.reads]) (by rw [hp]; rfl) (by rw [hp]; rfl)
      ⟨hcb.1, fun _ => hne (by simp [hp])⟩
  | processOrderLeave =>
    simp only [Restaurant.chefStep, hp, Option.some.injEq] at h
    subst h
    have := hne (by simp [hp])
    exact hK.chefMove (fun _ => up_sem_of_ne _ (by simp)) (fun _ => up_sem_of_ne _ (by simp))
      (by simp [hp, ChefPc.posts]) (by simp [hp, ChefPc.reads]) (by rw [hp]; rfl)
      (by simp only [hp, ChefPc.busy, Bool.toNat_true, Bool.toNat_false])
      ⟨by omega, fun e => absurd rfl e⟩

/-- **What a receptionist's step leaves alone**: everything the kitchen
uses, but `assignedTable`. -/
theorem receptionistStep_frame (h : receptionistStep NUMTABLES nGroups s = some s') :
    s'.group = s.group ∧ s'.waiter = s.waiter ∧ s'.waiterReqs = s.waiterReqs ∧
    s'.chef = s.chef ∧ s'.chefOrders = s.chefOrders ∧ s'.waiterRequest = s.waiterRequest ∧
    s'.foodGroup = s.foodGroup ∧ s'.ghost.waiterWrites = s.ghost.waiterWrites ∧
    s'.ghost.waiterReads = s.ghost.waiterReads ∧ s'.ghost.orderWrites = s.ghost.orderWrites ∧
    s'.ghost.orderReads = s.ghost.orderReads ∧ s'.ghost.informed = s.ghost.informed ∧
    s'.ghost.served = s.ghost.served ∧ s'.sem .waiterRequest = s.sem .waiterRequest ∧
    s'.sem .waitOrder = s.sem .waitOrder ∧
    (∀ t, s'.sem (.requestReceived t) = s.sem (.requestReceived t)) ∧
    (∀ t, s'.sem (.foodArrived t) = s.sem (.foodArrived t)) ∧
    s'.sem .waiterRequestPossible = s.sem .waiterRequestPossible ∧
    s'.sem .orderReceived = s.sem .orderReceived := by
  cases hp : s.receptionist <;> simp only [Restaurant.receptionistStep, hp] at h <;>
    (try split at h) <;>
    simp only [Option.map_eq_some', down_eq_some, Option.some.injEq, reduceCtorEq, false_and,
      exists_const] at h
  all_goals obtain ⟨_, ⟨-, rfl⟩, rfl⟩ := h
  all_goals simp [up, Function.update_noteq]

/-- A receptionist's step writes `assignedTable` only for a group at
`checkInWaitTable` or past its checkout wait. -/
theorem receptionistStep_assignedTable (hS : Seating NUMTABLES nGroups s)
    (h : receptionistStep NUMTABLES nGroups s = some s') {g : Nat}
    (h5 : 5 ≤ (s.group g).idx) (h18 : (s.group g).idx ≤ 18) :
    s'.assignedTable g = s.assignedTable g := by
  cases hp : s.receptionist <;> simp only [Restaurant.receptionistStep, hp] at h <;>
    (try split at h) <;>
    simp only [Option.map_eq_some', down_eq_some, Option.some.injEq, reduceCtorEq, false_and,
      exists_const] at h
  all_goals obtain ⟨_, ⟨-, rfl⟩, rfl⟩ := h
  all_goals try rfl
  · rename_i i
    have hi := (hS.holds_table (g := i) (by rw [hp]; rfl)).2.2.1
    exact provideTableOrWaitingRoom_assignedTable fun e => by subst e; rw [hi] at h5; simp [GroupPc.idx] at h5
  · rename_i i
    have hi := (hS.holds_bill (g := i) (by rw [hp]; rfl)).2.2.1
    simp only [receivePayment_assignedTable]
    exact Function.update_noteq (fun e => by subst e; omega) _ _
  · rename_i p ng t
    have hi := (hS.handing p ng t hp).2.1
    exact Function.update_noteq (fun e => by subst e; rw [hi] at h5; simp [GroupPc.idx] at h5) _ _

/-- The group a per-table signal of the waiter is for waits at its table
for that signal. -/
theorem Kitchen.target_idx (hK : Kitchen NUMTABLES nGroups s) {g : Nat} {t : Int}
    (h : s.waiter.target = some (g, t)) :
    g < nGroups ∧ 9 ≤ (s.group g).idx ∧ (s.group g).idx ≤ 12 := by
  cases hw : s.waiter <;> simp only [hw, WaiterPc.target, reduceCtorEq, Option.some.injEq,
    Prod.mk.injEq] at h <;> obtain ⟨rfl, -⟩ := h
  case takeFoodToTableSignal =>
    obtain ⟨hg, h9, h12, -⟩ := hK.holds_foodReady (by rw [hw]; rfl)
    exact ⟨hg, h9, h12⟩
  all_goals
    obtain ⟨hg, h9, -⟩ := hK.holds_foodReq (by rw [hw]; rfl)
    exact ⟨hg, by omega, by omega⟩

/-- **The receptionist's step keeps the kitchen's invariant.** -/
theorem Kitchen.receptionistStep (hS : Seating NUMTABLES nGroups s)
    (hK : Kitchen NUMTABLES nGroups s) (h : receptionistStep NUMTABLES nGroups s = some s') :
    Kitchen NUMTABLES nGroups s' := by
  obtain ⟨hG, hW, hreqs, hC, hco, hwr, hfg, hww, hwrd, how, hor, hinf, hsrv, hwq, hwo, hrr, hfa, -⟩ :=
    receptionistStep_frame h
  have hat : ∀ g, g < nGroups → 9 ≤ (s.group g).idx → (s.group g).idx ≤ 12 →
      s'.assignedTable g = s.assignedTable g :=
    fun g _ h9 h12 => receptionistStep_assignedTable hS h (by omega) (by omega)
  refine hK.congr hG hat hwr hfg hww hwrd how hor hinf hsrv
    (by simp only [waiterPending, hG, hC, hwq, hW]) (by simp only [orderPending, hW, hwo, hC])
    hrr hfa (by rw [hW]) (by rw [hW]) (fun _ e => by rwa [hW] at e) (fun g t e => ?_)
    (by rw [hreqs, hW]) (by rw [hreqs, hW]; exact hK.bounded) (by rw [hC])
    (by rw [hco, hC]) (by rw [hco, hC]; exact hK.chefBounded)
  rw [hW] at e
  obtain ⟨hg, h9, h12⟩ := hK.target_idx e
  rw [hat g hg h9 h12, hK.table g t e]

/-- **Every step keeps the kitchen's invariant.** -/
theorem Kitchen.step {a : Actor} (hT : Tokens nGroups s) (hS : Seating NUMTABLES nGroups s)
    (hK : Kitchen NUMTABLES nGroups s) (h : step NUMTABLES nGroups s a = some s') :
    Kitchen NUMTABLES nGroups s' := by
  cases a with
  | group g =>
    simp only [Restaurant.step] at h
    split at h
    · exact hK.groupStep (by assumption) hT hS h
    · cases h
  | receptionist => exact hK.receptionistStep hS h
  | waiter => exact hK.waiterStep hT hS h
  | chef => exact hK.chefStep hT h

/-- **The three invariants hold of every reachable state.** -/
theorem kitchen_reachable (h : Reachable NUMTABLES nGroups s) :
    Tokens nGroups s ∧ Seating NUMTABLES nGroups s ∧ Kitchen NUMTABLES nGroups s := by
  induction h with
  | init hi => exact ⟨tokens_initial hi, seating_initial hi, kitchen_initial hi⟩
  | step a _ hs ih => exact ⟨ih.1.step hs, ih.2.1.step ih.1 hs, ih.2.2.step ih.1 ih.2.1 hs⟩

end Restaurant
