import Restaurant.Kitchen.GroupStep
/-!
# Restaurant — the waiter's step keeps the kitchen's invariant

The invariant reads the waiter only through what it carries, the order
it is handing over, the table it is about to signal and its request
count (`Kitchen.congr`), so most of its steps, which only move `mutex`
or hand a token on, keep it as they are (`Kitchen.waiterMove`). The four
that do more are proved one by one: the read of the mailbox, the store
of an order, and the two per-table signals.
-/

namespace Restaurant

open State

variable {NUMTABLES nGroups : Nat} {s s' : State}

/-- **The kitchen's invariant reads only these parts of the state.** A
table may change for a group outside its food phase. -/
theorem Kitchen.congr (hK : Kitchen NUMTABLES nGroups s) (hG : s'.group = s.group)
    (hat : ∀ g, g < nGroups → 9 ≤ (s.group g).idx → (s.group g).idx ≤ 12 →
      s'.assignedTable g = s.assignedTable g)
    (hwr : s'.waiterRequest = s.waiterRequest) (hfg : s'.foodGroup = s.foodGroup)
    (hww : s'.ghost.waiterWrites = s.ghost.waiterWrites)
    (hwrd : s'.ghost.waiterReads = s.ghost.waiterReads)
    (how : s'.ghost.orderWrites = s.ghost.orderWrites)
    (hor : s'.ghost.orderReads = s.ghost.orderReads)
    (hinf : s'.ghost.informed = s.ghost.informed) (hsrv : s'.ghost.served = s.ghost.served)
    (hpend : waiterPending nGroups s' = waiterPending nGroups s)
    (hopend : orderPending s' = orderPending s)
    (hrr : ∀ t, s'.sem (.requestReceived t) = s.sem (.requestReceived t))
    (hfa : ∀ t, s'.sem (.foodArrived t) = s.sem (.foodArrived t))
    (hholds : s'.waiter.holds = s.waiter.holds) (hinfm : s'.waiter.informing = s.waiter.informing)
    (horder : ∀ g, s'.waiter.order? = some g → s.waiter.order? = some g)
    (htable : ∀ g t, s'.waiter.target = some (g, t) → s'.assignedTable g = t)
    (hserved : s'.waiterReqs + s'.waiter.busy.toNat = s.waiterReqs + s.waiter.busy.toNat)
    (hbnd : s'.waiterReqs ≤ 2 * nGroups ∧
      (s'.waiter ≠ .waitForClientOrChef → s'.waiterReqs < 2 * nGroups))
    (hch : s'.chef.holds = s.chef.holds)
    (hcooked : s'.chefOrders + s'.chef.busy.toNat = s.chefOrders + s.chef.busy.toNat)
    (hcbnd : s'.chefOrders ≤ nGroups ∧ (s'.chef ≠ .waitForOrder → s'.chefOrders < nGroups)) :
    Kitchen NUMTABLES nGroups s' := by
  have hcook : ∀ g, cookedWrites s' g = cookedWrites s g := fun g => by
    simp only [cookedWrites, hor, hch]
  have hfood : ∀ g, foodReads s' g = foodReads s g := fun g => by
    simp only [foodReads, hinf, hsrv]
  have hhf : ∀ g, s'.waiter.holdsFor g = s.waiter.holdsFor g := fun g => by
    simp only [WaiterPc.holdsFor, hholds]
  exact {
    mail := by rw [hwrd, hpend, hwr, hww]; exact hK.mail
    writes := fun g hg => by rw [hww, hG, hcook]; exact hK.writes g hg
    writes_lt := by rw [hww]; exact hK.writes_lt
    reads := fun g hg => by rw [hwrd, hfood, hhf]; exact hK.reads g hg
    orders := by rw [hor, hopend, hfg, how]; exact hK.orders
    ordered := by rw [how, hinf, hinfm]; exact hK.ordered
    ordered_lt := by rw [how]; exact hK.ordered_lt
    nodup := by rw [how]; exact hK.nodup
    slot := fun g e => by rw [hfg]; exact hK.slot g (horder g e)
    chef := fun g e => by rw [hor]; exact hK.chef g (hch ▸ e)
    holds_lt := fun r e => hK.holds_lt r (hholds ▸ e)
    table := htable
    early := fun g hg h8 => by rw [hinf, hhf]; exact hK.early g hg (hG ▸ h8)
    informed := fun g hg h10 => by rw [hinf]; exact hK.informed g hg (hG ▸ h10)
    eaten := fun g hg h13 => by rw [hsrv]; exact hK.eaten g hg (hG ▸ h13)
    requestReceived := fun t => by rw [hrr, hG, hinf]; exact hK.requestReceived t
    foodArrived := fun t => by
      rw [hfa, hK.foodArrived t, hG, hsrv]
      refine countGroups_congr fun g hg => ?_
      by_cases hv : g ∈ s.ghost.served ∧ (s.group g).idx ≤ 12
      · rw [hat g hg (hK.idx_of_served hg hv.1) hv.2]
      · have h1 : ¬ (g ∈ s.ghost.served ∧ (s.group g).idx ≤ 12 ∧ s'.assignedTable g = t) :=
          fun h => hv ⟨h.1, h.2.1⟩
        have h2 : ¬ (g ∈ s.ghost.served ∧ (s.group g).idx ≤ 12 ∧ s.assignedTable g = t) :=
          fun h => hv ⟨h.1, h.2.1⟩
        rw [decide_eq_false h1, decide_eq_false h2]
    served := by rw [hserved, hwrd]; exact hK.served
    bounded := hbnd
    cooked := by rw [hcooked, hor]; exact hK.cooked
    chefBounded := hcbnd }

/-- A waiter's step that moves only its point, its request count and
semaphores the invariant does not read, or whose token it hands on. -/
theorem Kitchen.waiterMove (hK : Kitchen NUMTABLES nGroups s) {σ : Sem → Nat}
    {ws : WaiterStat} {w : WaiterPc} {reqs : Nat}
    (hrr : ∀ t, σ (.requestReceived t) = s.sem (.requestReceived t))
    (hfa : ∀ t, σ (.foodArrived t) = s.sem (.foodArrived t))
    (hpend : σ .waiterRequest + w.reads.toNat = s.sem .waiterRequest + s.waiter.reads.toNat)
    (hopend : w.ordering.toNat + σ .waitOrder = s.waiter.ordering.toNat + s.sem .waitOrder)
    (hholds : w.holds = s.waiter.holds) (hinfm : w.informing = s.waiter.informing)
    (horder : ∀ g, w.order? = some g → s.waiter.order? = some g)
    (htable : ∀ g t, w.target = some (g, t) → s.assignedTable g = t)
    (hserved : reqs + w.busy.toNat = s.waiterReqs + s.waiter.busy.toNat)
    (hbnd : reqs ≤ 2 * nGroups ∧ (w ≠ .waitForClientOrChef → reqs < 2 * nGroups)) :
    Kitchen NUMTABLES nGroups
      { s with sem := σ, waiterStat := ws, waiter := w, waiterReqs := reqs } :=
  hK.congr rfl (fun _ _ _ _ => rfl) rfl rfl rfl rfl rfl rfl rfl rfl
    (by unfold waiterPending; dsimp only; omega) (by unfold orderPending; dsimp only; omega)
    hrr hfa hholds hinfm horder htable hserved hbnd rfl rfl hK.chefBounded

/-- A waiter's release of `mutex` or of its request permit that keeps
what it carries keeps the invariant. -/
theorem Kitchen.waiterUp (hK : Kitchen NUMTABLES nGroups s) {x : Sem}
    (hx : x = .mutex ∨ x = .waiterRequestPossible) {w : WaiterPc}
    (hr : w.reads = s.waiter.reads) (ho : w.ordering = s.waiter.ordering)
    (hholds : w.holds = s.waiter.holds) (hinfm : w.informing = s.waiter.informing)
    (horder : ∀ g, w.order? = some g → s.waiter.order? = some g)
    (htable : ∀ g t, w.target = some (g, t) → s.assignedTable g = t) (hb : w.busy = s.waiter.busy)
    (hw : s.waiter ≠ .waitForClientOrChef) : Kitchen NUMTABLES nGroups { s.up x with waiter := w } := by
  have hne : ∀ y : Sem, (y = .waiterRequest ∨ y = .waitOrder ∨ (∃ t, y = .requestReceived t) ∨
      ∃ t, y = .foodArrived t) → (s.up x).sem y = s.sem y := by
    rintro y hy
    refine up_sem_of_ne _ fun e => ?_
    subst e
    rcases hx with rfl | rfl <;> rcases hy with h | h | ⟨_, h⟩ | ⟨_, h⟩ <;> cases h
  exact hK.waiterMove (fun t => hne _ (.inr (.inr (.inl ⟨t, rfl⟩))))
    (fun t => hne _ (.inr (.inr (.inr ⟨t, rfl⟩)))) (by rw [hne _ (.inl rfl), hr])
    (by rw [hne _ (.inr (.inl rfl)), ho]) hholds hinfm horder htable (by rw [hb]; rfl)
    ⟨hK.bounded.1, fun _ => hK.bounded.2 hw⟩

/-- **Reading the mailbox keeps the invariant**: the value read is the one
pending, and the group it is for is past `orderFood`'s critical section,
since the waiter holds `mutex`. -/
theorem Kitchen.read (hT : Tokens nGroups s) (hK : Kitchen NUMTABLES nGroups s)
    (hp : s.waiter = .waitForClientOrChefRead) (h0 : 0 < s.sem .mutex) :
    Kitchen NUMTABLES nGroups
      { s with sem := Function.update s.sem .mutex (s.sem .mutex - 1)
               waiter := .waitForClientOrChefReadLeave s.waiterRequest
               ghost := { s.ghost with
                 waiterReads := s.ghost.waiterReads ++ [s.waiterRequest] } } := by
  have hpend1 : waiterPending nGroups s = 1 :=
    le_antisymm (waiterPending_le_one hT) (by simp [waiterPending, hp, WaiterPc.reads])
  have hm := hK.mail
  rw [hpend1, List.replicate_one] at hm
  have hmem : s.waiterRequest ∈ s.ghost.waiterWrites := by rw [← hm]; simp
  have hlt := hK.writes_lt _ hmem
  have h9 := hK.idx_of_written hmem ((hT.mutex_free h0).1 _ hlt)
  have hbnd := hK.bounded
  have hserved := hK.served
  rw [hp] at hbnd hserved
  generalize hs' : { s with
    sem := Function.update s.sem .mutex (s.sem .mutex - 1)
    waiter := .waitForClientOrChefReadLeave s.waiterRequest
    ghost := { s.ghost with waiterReads := s.ghost.waiterReads ++ [s.waiterRequest] } } = s'
  have hsem : ∀ x, x ≠ .mutex → s'.sem x = s.sem x := fun x hx => by
    rw [← hs']; exact Function.update_noteq hx _ _
  have hW : s'.waiter = .waitForClientOrChefReadLeave s.waiterRequest := by rw [← hs']
  have hwrd : s'.ghost.waiterReads = s.ghost.waiterReads ++ [s.waiterRequest] := by rw [← hs']
  have hG : s'.group = s.group := by rw [← hs']
  have hreqs : s'.waiterReqs = s.waiterReqs := by rw [← hs']
  have hfood : ∀ g, foodReads s' g = foodReads s g := fun g => by rw [← hs']; rfl
  have hcook : ∀ g, cookedWrites s' g = cookedWrites s g := fun g => by rw [← hs']; rfl
  have hpend0 : waiterPending nGroups s' = 0 := by
    have e : waiterPending nGroups s = waiterPending nGroups s' + 1 := by
      rw [← hs']
      simp only [waiterPending, hp, Function.update_noteq (show Sem.waiterRequest ≠ .mutex by simp),
        WaiterPc.reads, Bool.toNat_true, Bool.toNat_false]
    omega
  have hopend : orderPending s' = orderPending s := by
    rw [← hs']
    simp only [orderPending, hp, Function.update_noteq (show Sem.waitOrder ≠ .mutex by simp)]
    rfl
  constructor
  case mail => rw [hpend0, List.replicate_zero, List.append_nil, hwrd, ← hs']; exact hm
  case writes => intro g hg; rw [hcook, ← hs']; exact hK.writes g hg
  case writes_lt => rw [← hs']; exact hK.writes_lt
  case reads =>
    intro g hg
    rw [hwrd, hfood, hW, List.filter_append, hK.reads g hg, hp]
    simp only [WaiterPc.holdsFor, WaiterPc.holds]
    by_cases e : s.waiterRequest.reqGroup = g <;> simp [e]
  case orders => rw [hopend, ← hs']; exact hK.orders
  case ordered => rw [hW, ← hs', hK.ordered, hp]; rfl
  case ordered_lt => rw [← hs']; exact hK.ordered_lt
  case nodup => rw [← hs']; exact hK.nodup
  case slot => intro g e; rw [hW] at e; cases e
  case chef => rw [← hs']; exact hK.chef
  case holds_lt => intro r e; rw [hW] at e; cases e; exact hlt
  case table => intro g t e; rw [hW] at e; cases e
  case early =>
    intro g hg h8
    rw [hW, show s'.ghost.informed = s.ghost.informed by rw [← hs']]
    rw [hG] at h8
    refine ⟨(hK.early g hg h8).1, ?_⟩
    simp only [WaiterPc.holdsFor, WaiterPc.holds]
    rw [if_neg]
    rintro rfl
    omega
  case informed => rw [← hs']; exact hK.informed
  case eaten => rw [← hs']; exact hK.eaten
  case requestReceived =>
    intro t; rw [hsem _ (by simp)]; rw [← hs']; exact hK.requestReceived t
  case foodArrived =>
    intro t; rw [hsem _ (by simp)]; rw [← hs']; exact hK.foodArrived t
  case served =>
    rw [hW, hwrd, hreqs]
    simp only [WaiterPc.busy, Bool.toNat_true, List.length_append, List.length_singleton]
    simp only [WaiterPc.busy, Bool.toNat_false] at hserved
    omega
  case bounded => rw [hW, hreqs]; exact ⟨hbnd.1, fun _ => hbnd.2 (by simp)⟩
  case cooked => rw [← hs']; exact hK.cooked
  case chefBounded => rw [← hs']; exact hK.chefBounded

/-- **Storing an order keeps the invariant**: the slot is empty, since the
chef has taken every order stored before and the waiter waited for it. -/
theorem Kitchen.informChef (hT : Tokens nGroups s) (hK : Kitchen NUMTABLES nGroups s) {g : Nat}
    (hp : s.waiter = .informChef g) :
    Kitchen NUMTABLES nGroups
      { s with sem := Function.update s.sem .mutex (s.sem .mutex - 1)
               waiterStat := .INFORM_CHEF
               foodOrder := 1
               foodGroup := g
               waiter := .informChefLeave g (s.assignedTable g)
               ghost := { s.ghost with orderWrites := s.ghost.orderWrites ++ [g] } } := by
  obtain ⟨hg, -, hI, -⟩ := hK.holds_foodReq (g := g) (by rw [hp]; rfl)
  have ho := hT.order
  rw [hp] at ho
  simp only [WaiterPc.awaitsChef, Bool.toNat_false] at ho
  have hrd : s.chef.reads = false := by
    have : s.chef.handshake = false := by rw [← Bool.toNat_eq_zero]; omega
    revert this; cases s.chef <;> simp [ChefPc.handshake, ChefPc.reads]
  have hOW : s.ghost.orderWrites = s.ghost.informed := by
    rw [hK.ordered, hp]; simp [WaiterPc.informing]
  have hOR : s.ghost.orderReads = s.ghost.orderWrites := by
    have := hK.orders
    rwa [show orderPending s = 0 by
      simp only [orderPending, hp, hrd, WaiterPc.ordering, Bool.toNat_false]; omega,
      List.replicate_zero, List.append_nil] at this
  have hbnd := hK.bounded
  have hserved := hK.served
  rw [hp] at hbnd hserved
  generalize hs' : { s with
    sem := Function.update s.sem .mutex (s.sem .mutex - 1)
    waiterStat := .INFORM_CHEF
    foodOrder := 1
    foodGroup := g
    waiter := .informChefLeave g (s.assignedTable g)
    ghost := { s.ghost with orderWrites := s.ghost.orderWrites ++ [g] } } = s'
  have hsem : ∀ x, x ≠ .mutex → s'.sem x = s.sem x := fun x hx => by
    rw [← hs']; exact Function.update_noteq hx _ _
  have hW : s'.waiter = .informChefLeave g (s.assignedTable g) := by rw [← hs']
  have hG : s'.group = s.group := by rw [← hs']
  have hreqs : s'.waiterReqs = s.waiterReqs := by rw [← hs']
  have how : s'.ghost.orderWrites = s.ghost.orderWrites ++ [g] := by rw [← hs']
  have hholds : s'.waiter.holds = s.waiter.holds := by rw [hW, hp]; rfl
  have hhf : ∀ i, s'.waiter.holdsFor i = s.waiter.holdsFor i := fun i => by
    simp only [WaiterPc.holdsFor, hholds]
  have hfood : ∀ i, foodReads s' i = foodReads s i := fun i => by rw [← hs']; rfl
  have hcook : ∀ i, cookedWrites s' i = cookedWrites s i := fun i => by rw [← hs']; rfl
  have hpend : waiterPending nGroups s' = waiterPending nGroups s := by
    rw [← hs']
    simp only [waiterPending, hp, Function.update_noteq (show Sem.waiterRequest ≠ .mutex by simp),
      WaiterPc.reads]
  constructor
  case mail => rw [hpend, ← hs']; exact hK.mail
  case writes => intro i hi; rw [hcook, ← hs']; exact hK.writes i hi
  case writes_lt => rw [← hs']; exact hK.writes_lt
  case reads => intro i hi; rw [hfood, hhf, ← hs']; exact hK.reads i hi
  case orders =>
    rw [how, ← hOR]
    rw [← hs']
    simp only [orderPending, WaiterPc.ordering, hrd,
      Function.update_noteq (show Sem.waitOrder ≠ .mutex by simp)]
    rw [show s.sem .waitOrder = 0 by omega]
    rfl
  case ordered =>
    rw [how, hW, hOW, show s'.ghost.informed = s.ghost.informed by rw [← hs']]; rfl
  case ordered_lt =>
    intro i hi
    rw [how, List.mem_append, List.mem_singleton] at hi
    rcases hi with hi | rfl
    · exact hK.ordered_lt i hi
    · exact hg
  case nodup =>
    rw [how, hOW]
    exact (hOW ▸ hK.nodup).append (List.nodup_singleton g)
      fun i hi hi' => by rw [List.mem_singleton] at hi'; exact hI (hi' ▸ hi)
  case slot => intro i e; rw [hW] at e; cases e; rw [← hs']
  case chef => rw [← hs']; exact hK.chef
  case holds_lt => rw [hholds]; exact hK.holds_lt
  case table => intro i t e; rw [hW] at e; cases e; rw [← hs']
  case early =>
    intro i hi h8
    rw [hhf, show s'.ghost.informed = s.ghost.informed by rw [← hs']]
    exact hK.early i hi (hG ▸ h8)
  case informed => rw [← hs']; exact hK.informed
  case eaten => rw [← hs']; exact hK.eaten
  case requestReceived => intro t; rw [hsem _ (by simp), ← hs']; exact hK.requestReceived t
  case foodArrived => intro t; rw [hsem _ (by simp), ← hs']; exact hK.foodArrived t
  case served => rw [hW, hreqs, ← hs']; exact hserved
  case bounded => rw [hW, hreqs]; exact ⟨hbnd.1, fun _ => hbnd.2 (by simp)⟩
  case cooked => rw [← hs']; exact hK.cooked
  case chefBounded => rw [← hs']; exact hK.chefBounded

/-- **Signalling an ordering group keeps the invariant**: the
`requestReceived[t]` token is owed to the group just informed, which
waits at table `t`. -/
theorem Kitchen.informChefSignal (hS : Seating NUMTABLES nGroups s)
    (hK : Kitchen NUMTABLES nGroups s) {g : Nat} {t : Int} (hp : s.waiter = .informChefSignal g t) :
    Kitchen NUMTABLES nGroups
      { s with sem := Function.update s.sem (.requestReceived t) (s.sem (.requestReceived t) + 1)
               waiter := .informChefOrder g
               ghost := { s.ghost with informed := s.ghost.informed ++ [g] } } := by
  obtain ⟨hg, h9, hI, hSv⟩ := hK.holds_foodReq (g := g) (by rw [hp]; rfl)
  have hat := hK.table g t (by rw [hp]; rfl)
  have htab : (s.group g).table? = some t := by
    obtain ⟨t', e⟩ := GroupPc.eq_orderFoodWait h9
    have := ((hS.phase g hg).seated (by omega) (by omega)).2.2.2.2 t' (by rw [e]; rfl)
    rw [e, ← hat, ← this]; rfl
  have hbnd := hK.bounded
  have hserved := hK.served
  rw [hp] at hbnd hserved
  generalize hs' : { s with
    sem := Function.update s.sem (.requestReceived t) (s.sem (.requestReceived t) + 1)
    waiter := .informChefOrder g
    ghost := { s.ghost with informed := s.ghost.informed ++ [g] } } = s'
  have hsem : ∀ x, x ≠ .requestReceived t → s'.sem x = s.sem x := fun x hx => by
    rw [← hs']; exact Function.update_noteq hx _ _
  have hW : s'.waiter = .informChefOrder g := by rw [← hs']
  have hG : s'.group = s.group := by rw [← hs']
  have hinf : s'.ghost.informed = s.ghost.informed ++ [g] := by rw [← hs']
  have hsrv : s'.ghost.served = s.ghost.served := by rw [← hs']
  have hcook : ∀ i, cookedWrites s' i = cookedWrites s i := fun i => by rw [← hs']; rfl
  have hmem : ∀ i, i ≠ g → (i ∈ s'.ghost.informed ↔ i ∈ s.ghost.informed) := fun i hi => by
    rw [hinf, List.mem_append, List.mem_singleton, or_iff_left hi]
  have hpend : waiterPending nGroups s' = waiterPending nGroups s := by
    rw [← hs']
    simp only [waiterPending, hp, WaiterPc.reads,
      Function.update_noteq (show Sem.waiterRequest ≠ .requestReceived t by simp)]
  have hopend : orderPending s' = orderPending s := by
    rw [← hs']
    simp only [orderPending, hp, WaiterPc.ordering,
      Function.update_noteq (show Sem.waitOrder ≠ .requestReceived t by simp)]
  constructor
  case mail => rw [hpend, ← hs']; exact hK.mail
  case writes => intro i hi; rw [hcook, ← hs']; exact hK.writes i hi
  case writes_lt => rw [← hs']; exact hK.writes_lt
  case reads =>
    intro i hi
    rw [show s'.ghost.waiterReads = s.ghost.waiterReads by rw [← hs'], hK.reads i hi, hW, hp]
    by_cases hig : i = g
    · subst hig
      simp [foodReads, WaiterPc.holdsFor, WaiterPc.holds, hinf, hsrv, hI, hSv]
    · simp only [foodReads, WaiterPc.holdsFor, WaiterPc.holds, hmem i hig, hsrv, Ne.symm hig,
        if_false]
  case orders => rw [hopend, ← hs']; exact hK.orders
  case ordered =>
    rw [show s'.ghost.orderWrites = s.ghost.orderWrites by rw [← hs'], hK.ordered, hinf, hW, hp]
    simp [WaiterPc.informing]
  case ordered_lt => rw [← hs']; exact hK.ordered_lt
  case nodup => rw [← hs']; exact hK.nodup
  case slot => intro i e; rw [hW] at e; cases e; rw [← hs']; exact hK.slot g (by rw [hp]; rfl)
  case chef => rw [← hs']; exact hK.chef
  case holds_lt => intro r e; rw [hW] at e; cases e
  case table => intro i t e; rw [hW] at e; cases e
  case early =>
    intro i hi h8
    rw [hG] at h8
    have hig : i ≠ g := fun e => by subst e; omega
    rw [hmem i hig, hW]
    exact ⟨(hK.early i hi h8).1, rfl⟩
  case informed =>
    intro i hi h10
    rw [hinf]
    exact List.mem_append_left _ (hK.informed i hi (hG ▸ h10))
  case eaten => rw [hsrv, hG]; exact hK.eaten
  case requestReceived =>
    intro t'
    have c := countGroups_update (n := nGroups)
      (p := fun i => decide ((s.group i).idx = 9 ∧ (s.group i).table? = some t' ∧
        i ∈ s.ghost.informed))
      (q := fun i => decide ((s.group i).idx = 9 ∧ (s.group i).table? = some t' ∧
        i ∈ s'.ghost.informed)) hg
      fun i hi => by beta_reduce; simp only [hmem i hi]
    beta_reduce at c
    rw [hG]
    have hc := hK.requestReceived t'
    have hq : decide ((s.group g).idx = 9 ∧ (s.group g).table? = some t' ∧
        g ∈ s'.ghost.informed) = decide (t = t') := by simp [h9, htab, hinf]
    have hpf : decide ((s.group g).idx = 9 ∧ (s.group g).table? = some t' ∧
        g ∈ s.ghost.informed) = false := by simp [hI]
    rw [hq, hpf] at c
    by_cases e : t = t'
    · subst e
      rw [show s'.sem (.requestReceived t) = s.sem (.requestReceived t) + 1 by
        rw [← hs']; exact Function.update_same _ _ _]
      simp only [decide_True, Bool.toNat_true, Bool.toNat_false] at c
      omega
    · rw [hsem _ (by simp [Ne.symm e])]
      simp only [e, decide_False, Bool.toNat_false] at c
      omega
  case foodArrived => intro t'; rw [hsem _ (by simp), hG, hsrv, ← hs']; exact hK.foodArrived t'
  case served =>
    rw [hW, show s'.waiterReqs = s.waiterReqs by rw [← hs'],
      show s'.ghost.waiterReads = s.ghost.waiterReads by rw [← hs']]
    exact hserved
  case bounded =>
    rw [hW, show s'.waiterReqs = s.waiterReqs by rw [← hs']]
    exact ⟨hbnd.1, fun _ => hbnd.2 (by simp)⟩
  case cooked => rw [← hs']; exact hK.cooked
  case chefBounded => rw [← hs']; exact hK.chefBounded

/-- **Serving a group keeps the invariant**: the `foodArrived[t]` token is
owed to the group just served, which sits at table `t`. -/
theorem Kitchen.takeFoodToTableSignal (hK : Kitchen NUMTABLES nGroups s) {g : Nat} {t : Int}
    (hp : s.waiter = .takeFoodToTableSignal g t) :
    Kitchen NUMTABLES nGroups
      { s with sem := Function.update s.sem (.foodArrived t) (s.sem (.foodArrived t) + 1)
               waiter := .takeFoodToTableLeave g
               ghost := { s.ghost with served := s.ghost.served ++ [g] } } := by
  obtain ⟨hg, h9, h12, hI, hSv, -⟩ := hK.holds_foodReady (g := g) (by rw [hp]; rfl)
  have hat := hK.table g t (by rw [hp]; rfl)
  have hbnd := hK.bounded
  have hserved := hK.served
  rw [hp] at hbnd hserved
  generalize hs' : { s with
    sem := Function.update s.sem (.foodArrived t) (s.sem (.foodArrived t) + 1)
    waiter := .takeFoodToTableLeave g
    ghost := { s.ghost with served := s.ghost.served ++ [g] } } = s'
  have hsem : ∀ x, x ≠ .foodArrived t → s'.sem x = s.sem x := fun x hx => by
    rw [← hs']; exact Function.update_noteq hx _ _
  have hW : s'.waiter = .takeFoodToTableLeave g := by rw [← hs']
  have hG : s'.group = s.group := by rw [← hs']
  have hinf : s'.ghost.informed = s.ghost.informed := by rw [← hs']
  have hsrv : s'.ghost.served = s.ghost.served ++ [g] := by rw [← hs']
  have hcook : ∀ i, cookedWrites s' i = cookedWrites s i := fun i => by rw [← hs']; rfl
  have hmem : ∀ i, i ≠ g → (i ∈ s'.ghost.served ↔ i ∈ s.ghost.served) := fun i hi => by
    rw [hsrv, List.mem_append, List.mem_singleton, or_iff_left hi]
  have hpend : waiterPending nGroups s' = waiterPending nGroups s := by
    rw [← hs']
    simp only [waiterPending, hp, WaiterPc.reads,
      Function.update_noteq (show Sem.waiterRequest ≠ .foodArrived t by simp)]
  have hopend : orderPending s' = orderPending s := by
    rw [← hs']
    simp only [orderPending, hp, WaiterPc.ordering,
      Function.update_noteq (show Sem.waitOrder ≠ .foodArrived t by simp)]
  constructor
  case mail => rw [hpend, ← hs']; exact hK.mail
  case writes => intro i hi; rw [hcook, ← hs']; exact hK.writes i hi
  case writes_lt => rw [← hs']; exact hK.writes_lt
  case reads =>
    intro i hi
    rw [show s'.ghost.waiterReads = s.ghost.waiterReads by rw [← hs'], hK.reads i hi, hW, hp]
    by_cases hig : i = g
    · subst hig
      simp [foodReads, WaiterPc.holdsFor, WaiterPc.holds, hinf, hsrv, hI, hSv]
    · simp only [foodReads, WaiterPc.holdsFor, WaiterPc.holds, hmem i hig, hinf, Ne.symm hig,
        if_false]
  case orders => rw [hopend, ← hs']; exact hK.orders
  case ordered =>
    rw [show s'.ghost.orderWrites = s.ghost.orderWrites by rw [← hs'], hK.ordered, hinf, hW, hp]
    rfl
  case ordered_lt => rw [← hs']; exact hK.ordered_lt
  case nodup => rw [← hs']; exact hK.nodup
  case slot => intro i e; rw [hW] at e; cases e
  case chef => rw [← hs']; exact hK.chef
  case holds_lt => intro r e; rw [hW] at e; cases e
  case table => intro i t e; rw [hW] at e; cases e
  case early => intro i hi h8; rw [hinf, hW]; exact ⟨(hK.early i hi (hG ▸ h8)).1, rfl⟩
  case informed => rw [hinf, hG]; exact hK.informed
  case eaten =>
    intro i hi h13
    rw [hsrv]
    exact List.mem_append_left _ (hK.eaten i hi (hG ▸ h13))
  case requestReceived =>
    intro t'; rw [hsem _ (by simp), hG, hinf]; exact hK.requestReceived t'
  case foodArrived =>
    intro t'
    have c := countGroups_update (n := nGroups)
      (p := fun i => decide (i ∈ s.ghost.served ∧ (s.group i).idx ≤ 12 ∧ s.assignedTable i = t'))
      (q := fun i => decide (i ∈ s'.ghost.served ∧ (s.group i).idx ≤ 12 ∧ s.assignedTable i = t'))
      hg fun i hi => by beta_reduce; simp only [hmem i hi]
    beta_reduce at c
    rw [hG, show s'.assignedTable = s.assignedTable by rw [← hs']]
    have hc := hK.foodArrived t'
    have hq : decide (g ∈ s'.ghost.served ∧ (s.group g).idx ≤ 12 ∧ s.assignedTable g = t') =
        decide (t = t') := by simp [h12, hat, hsrv]
    have hpf : decide (g ∈ s.ghost.served ∧ (s.group g).idx ≤ 12 ∧ s.assignedTable g = t') =
        false := by simp [hSv]
    rw [hq, hpf] at c
    by_cases e : t = t'
    · subst e
      rw [show s'.sem (.foodArrived t) = s.sem (.foodArrived t) + 1 by
        rw [← hs']; exact Function.update_same _ _ _]
      simp only [decide_True, Bool.toNat_true, Bool.toNat_false] at c
      omega
    · rw [hsem _ (by simp [Ne.symm e])]
      simp only [e, decide_False, Bool.toNat_false] at c
      omega
  case served =>
    rw [hW, show s'.waiterReqs = s.waiterReqs by rw [← hs'],
      show s'.ghost.waiterReads = s.ghost.waiterReads by rw [← hs']]
    exact hserved
  case bounded =>
    rw [hW, show s'.waiterReqs = s.waiterReqs by rw [← hs']]
    exact ⟨hbnd.1, fun _ => hbnd.2 (by simp)⟩
  case cooked => rw [← hs']; exact hK.cooked
  case chefBounded => rw [← hs']; exact hK.chefBounded

theorem mutex_ne_rr (t : Int) : Sem.requestReceived t ≠ .mutex := by simp

theorem mutex_ne_fa (t : Int) : Sem.foodArrived t ≠ .mutex := by simp

/-- **The waiter's step keeps the kitchen's invariant.** -/
theorem Kitchen.waiterStep (hT : Tokens nGroups s) (hS : Seating NUMTABLES nGroups s)
    (hK : Kitchen NUMTABLES nGroups s) (h : waiterStep nGroups s = some s') :
    Kitchen NUMTABLES nGroups s' := by
  have hbnd := hK.bounded
  have hne : s.waiter ≠ .waitForClientOrChef → s.waiterReqs < 2 * nGroups := hbnd.2
  cases hp : s.waiter with
  | waitForClientOrChef =>
    simp only [Restaurant.waiterStep, hp] at h
    split at h
    · simp only [Option.map_eq_some', down_eq_some] at h
      obtain ⟨_, ⟨-, rfl⟩, rfl⟩ := h
      exact hK.waiterMove (fun t => Function.update_noteq (mutex_ne_rr t) (s.sem .mutex - 1) s.sem)
        (fun t => Function.update_noteq (mutex_ne_fa t) (s.sem .mutex - 1) s.sem)
        (by simp [Function.update_noteq, hp, WaiterPc.reads])
        (by simp [Function.update_noteq, hp, WaiterPc.ordering]) (by rw [hp]; rfl)
        (by rw [hp]; rfl) (fun _ e => by rw [hp]; exact e) (fun _ _ e => by cases e)
        (by rw [hp]; rfl) ⟨hbnd.1, fun _ => by dsimp only; omega⟩
    · cases h
  | waitForClientOrChefLeave =>
    simp only [Restaurant.waiterStep, hp, Option.some.injEq] at h
    subst h
    exact hK.waiterUp (.inl rfl) (by rw [hp]; rfl) (by rw [hp]; rfl) (by rw [hp]; rfl)
      (by rw [hp]; rfl) (fun _ e => by cases e) (fun _ _ e => by cases e) (by rw [hp]; rfl)
      (by simp [hp])
  | waitForClientOrChefWait =>
    simp only [Restaurant.waiterStep, hp, Option.map_eq_some', down_eq_some] at h
    obtain ⟨_, ⟨h0, rfl⟩, rfl⟩ := h
    exact hK.waiterMove
      (fun t => Function.update_noteq (show Sem.requestReceived t ≠ .waiterRequest by simp)
        (s.sem .waiterRequest - 1) s.sem)
      (fun t => Function.update_noteq (show Sem.foodArrived t ≠ .waiterRequest by simp)
        (s.sem .waiterRequest - 1) s.sem)
      (by simp only [hp, Function.update_same, WaiterPc.reads, Bool.toNat_true, Bool.toNat_false]
          omega)
      (by simp [Function.update_noteq, hp, WaiterPc.ordering]) (by rw [hp]; rfl)
      (by rw [hp]; rfl) (fun _ e => by rw [hp]; exact e) (fun _ _ e => by cases e)
      (by rw [hp]; rfl) ⟨hbnd.1, fun _ => hne (by simp [hp])⟩
  | waitForClientOrChefRead =>
    simp only [Restaurant.waiterStep, hp, Option.map_eq_some', down_eq_some] at h
    obtain ⟨_, ⟨h0, rfl⟩, rfl⟩ := h
    exact hK.read hT hp h0
  | waitForClientOrChefReadLeave r =>
    simp only [Restaurant.waiterStep, hp, Option.some.injEq] at h
    subst h
    exact hK.waiterUp (.inl rfl) (by rw [hp]; rfl) (by rw [hp]; rfl) (by rw [hp]; rfl)
      (by rw [hp]; rfl) (fun _ e => by cases e) (fun _ _ e => by cases e) (by rw [hp]; rfl)
      (by simp [hp])
  | waitForClientOrChefRelease r =>
    simp only [Restaurant.waiterStep, hp] at h
    have hmove : ∀ w : WaiterPc, w.holds = some r → w.reads = false → w.ordering = false →
        w.informing = none → w.order? = none → w.target = none → w.busy = true →
        Kitchen NUMTABLES nGroups { s.up .waiterRequestPossible with waiter := w } :=
      fun w hw hr hord hi ho ht hb => hK.waiterUp (.inr rfl) (by rw [hr, hp]; rfl)
        (by rw [hord, hp]; rfl) (by rw [hw, hp]; rfl) (by rw [hi, hp]; rfl)
        (fun _ e => by rw [ho] at e; cases e) (fun _ _ e => by rw [ht] at e; cases e)
        (by rw [hb, hp]; rfl) (by simp [hp])
    rcases hK.holds_kind (r := r) (by rw [hp]; rfl) with e | e
    · simp only [show r.reqType = .FOODREQ by rw [e], Option.some.injEq] at h
      subst h
      exact hmove _ (congrArg some e.symm) rfl rfl rfl rfl rfl rfl
    · simp only [show r.reqType = .FOODREADY by rw [e], Option.some.injEq] at h
      subst h
      exact hmove _ (congrArg some e.symm) rfl rfl rfl rfl rfl rfl
  | informChef g =>
    simp only [Restaurant.waiterStep, hp, Option.map_eq_some', down_eq_some] at h
    obtain ⟨_, ⟨-, rfl⟩, rfl⟩ := h
    exact hK.informChef hT hp
  | informChefLeave g t =>
    simp only [Restaurant.waiterStep, hp, Option.some.injEq] at h
    subst h
    exact hK.waiterUp (.inl rfl) (by rw [hp]; rfl) (by rw [hp]; rfl) (by rw [hp]; rfl)
      (by rw [hp]; rfl) (fun _ e => by rw [hp]; exact e)
      (fun _ _ e => hK.table _ _ (by rw [hp]; exact e)) (by rw [hp]; rfl) (by simp [hp])
  | informChefSignal g t =>
    simp only [Restaurant.waiterStep, hp, Option.some.injEq] at h
    subst h
    exact hK.informChefSignal hS hp
  | informChefOrder g =>
    simp only [Restaurant.waiterStep, hp, Option.some.injEq] at h
    subst h
    exact hK.waiterMove (fun _ => up_sem_of_ne _ (by simp)) (fun _ => up_sem_of_ne _ (by simp))
      (by simp [hp, WaiterPc.reads])
      (by simp only [hp, up_sem_self, WaiterPc.ordering, Bool.toNat_true, Bool.toNat_false]; omega)
      (by rw [hp]; rfl) (by rw [hp]; rfl) (fun _ e => by rw [hp]; exact e) (fun _ _ e => by cases e)
      (by rw [hp]; rfl) ⟨hbnd.1, fun _ => hne (by simp [hp])⟩
  | informChefWait g =>
    simp only [Restaurant.waiterStep, hp, Option.map_eq_some', down_eq_some] at h
    obtain ⟨_, ⟨-, rfl⟩, rfl⟩ := h
    have := hne (by simp [hp])
    exact hK.waiterMove
      (fun t => Function.update_noteq (show Sem.requestReceived t ≠ .orderReceived by simp)
        (s.sem .orderReceived - 1) s.sem)
      (fun t => Function.update_noteq (show Sem.foodArrived t ≠ .orderReceived by simp)
        (s.sem .orderReceived - 1) s.sem)
      (by simp [Function.update_noteq, hp, WaiterPc.reads])
      (by simp [Function.update_noteq, hp, WaiterPc.ordering]) (by rw [hp]; rfl)
      (by rw [hp]; rfl) (fun _ e => by cases e) (fun _ _ e => by cases e)
      (by simp only [hp, WaiterPc.busy, Bool.toNat_true, Bool.toNat_false])
      ⟨by dsimp only; omega, fun e => absurd rfl e⟩
  | takeFoodToTable g =>
    simp only [Restaurant.waiterStep, hp, Option.map_eq_some', down_eq_some] at h
    obtain ⟨_, ⟨-, rfl⟩, rfl⟩ := h
    exact hK.waiterMove (fun t => Function.update_noteq (mutex_ne_rr t) (s.sem .mutex - 1) s.sem)
      (fun t => Function.update_noteq (mutex_ne_fa t) (s.sem .mutex - 1) s.sem)
      (by simp [Function.update_noteq, hp, WaiterPc.reads])
      (by simp [Function.update_noteq, hp, WaiterPc.ordering]) (by rw [hp]; rfl)
      (by rw [hp]; rfl) (fun _ e => by rw [hp]; exact e)
      (fun _ _ e => by simp only [WaiterPc.target, Option.some.injEq, Prod.mk.injEq] at e
                       obtain ⟨rfl, rfl⟩ := e; rfl)
      (by rw [hp]; rfl) ⟨hbnd.1, fun _ => hne (by simp [hp])⟩
  | takeFoodToTableSignal g t =>
    simp only [Restaurant.waiterStep, hp, Option.some.injEq] at h
    subst h
    exact hK.takeFoodToTableSignal hp
  | takeFoodToTableLeave g =>
    simp only [Restaurant.waiterStep, hp, Option.some.injEq] at h
    subst h
    have := hne (by simp [hp])
    exact hK.waiterMove (fun _ => up_sem_of_ne _ (by simp)) (fun _ => up_sem_of_ne _ (by simp))
      (by simp [hp, WaiterPc.reads]) (by simp [hp, WaiterPc.ordering]) (by rw [hp]; rfl)
      (by rw [hp]; rfl) (fun _ e => by cases e) (fun _ _ e => by cases e)
      (by simp only [hp, WaiterPc.busy, Bool.toNat_true, Bool.toNat_false])
      ⟨by omega, fun e => absurd rfl e⟩

end Restaurant
