import Restaurant.Kitchen.Invariant
/-!
# Restaurant — a group's step keeps the kitchen's invariant

`orderFood` writes the group's `FOODREQ` once (`groupStep_waiterPost`)
and hands the mailbox over with `waiterRequest`. The two food waits take
a token that, by `requestReceived` and `foodArrived`, is owed to the one
group seated at that table; with exclusive tables that group is the one
waiting (`Kitchen.informed_of_down`, `Kitchen.served_of_down`).
-/

namespace Restaurant

open State

variable {NUMTABLES nGroups : Nat} {s s' : State} {g : Nat}

/-- Only `orderFood` writes the waiter's mailbox. -/
theorem groupStep_waiterMail (h : groupStep s g = some s') (h6 : (s.group g).idx ≠ 6) :
    s'.waiterRequest = s.waiterRequest ∧ s'.ghost.waiterWrites = s.ghost.waiterWrites := by
  cases hp : s.group g <;> simp only [hp, GroupPc.idx] at h6 <;> (try omega) <;>
    simp only [Restaurant.groupStep, hp, Option.map_eq_some', down_eq_some, Option.some.injEq,
      reduceCtorEq, false_and, exists_const] at h <;>
    obtain ⟨_, ⟨-, rfl⟩, rfl⟩ := h <;> exact ⟨rfl, rfl⟩

/-- The write of `orderFood`: the group's `FOODREQ`. -/
theorem groupStep_waiterPost (h : groupStep s g = some s') (h6 : (s.group g).idx = 6) :
    s'.ghost.waiterWrites = s.ghost.waiterWrites ++ [⟨.FOODREQ, g⟩] ∧
      s'.waiterRequest = ⟨.FOODREQ, g⟩ ∧ (s'.group g).waiterWrites g = [⟨.FOODREQ, g⟩] := by
  have hpc : s.group g = .orderFoodMutex := by revert h6; cases s.group g <;> simp [GroupPc.idx]
  simp only [Restaurant.groupStep, hpc, Option.map_eq_some', down_eq_some] at h
  obtain ⟨_, ⟨-, rfl⟩, rfl⟩ := h
  simp [setGroup, postWaiter, GroupPc.waiterWrites, GroupPc.idx]

/-- What is pending in the waiter's mailbox grows by the post and is
otherwise unchanged. -/
theorem groupStep_waiterPending (hg : g < nGroups) (h : groupStep s g = some s') :
    waiterPending nGroups s' = waiterPending nGroups s +
      (if (s.group g).idx = 6 then 1 else 0) := by
  have c := countAt_update hg GroupPc.postsWaiter s.group (s'.group g)
  rw [← groupStep_group h] at c
  unfold waiterPending
  cases hp : s.group g <;>
    simp only [Restaurant.groupStep, hp, Option.map_eq_some', down_eq_some, Option.some.injEq,
      reduceCtorEq, false_and, exists_const] at h <;>
    obtain ⟨_, ⟨-, rfl⟩, rfl⟩ := h <;>
    simp only [hp, setGroup, setStat, postReceptionist, postWaiter, up, Function.update_same,
      GroupPc.postsWaiter, GroupPc.idx, Bool.toNat_true, Bool.toNat_false] at c ⊢ <;>
    (try simp only [Function.update_same, Function.update_noteq, ne_eq, reduceCtorEq,
      not_false_eq_true]) <;>
    split_ifs <;> first | omega | simp_all

namespace Kitchen

variable (hS : Seating NUMTABLES nGroups s) (hK : Kitchen NUMTABLES nGroups s)
include hS hK

/-- **The `requestReceived[t]` token a group takes is its own**: it is
owed to an informed group waiting at table `t`, and only `g` sits
there. -/
theorem informed_of_down {t : Int} (hg : g < nGroups) (hpc : s.group g = .orderFoodWait t)
    (hpos : 0 < s.sem (.requestReceived t)) : g ∈ s.ghost.informed := by
  rw [hK.requestReceived t] at hpos
  obtain ⟨i, hi, hd⟩ := countGroups_pos.1 hpos
  obtain ⟨h9, hti, hI⟩ := of_decide_eq_true hd
  have hg9 : (s.group g).idx = 9 := by rw [hpc]; rfl
  obtain ⟨-, h0, -, -, hgt⟩ := (hS.phase g hg).seated (by omega) (by omega)
  obtain ⟨-, -, -, -, hit⟩ := (hS.phase i hi).seated (by omega) (by omega)
  by_cases hig : i = g
  · exact hig ▸ hI
  · exact absurd ((hgt t (by rw [hpc]; rfl)).symm.trans (hit t hti))
      (hS.exclusive g i hg hi (Ne.symm hig) h0)

/-- **The `foodArrived[t]` token a group takes is its own.** -/
theorem served_of_down {t : Int} (hg : g < nGroups) (hpc : s.group g = .waitFoodWait t)
    (hpos : 0 < s.sem (.foodArrived t)) : g ∈ s.ghost.served := by
  rw [hK.foodArrived t] at hpos
  obtain ⟨i, hi, hd⟩ := countGroups_pos.1 hpos
  obtain ⟨hSv, h12, hat⟩ := of_decide_eq_true hd
  have hg12 : (s.group g).idx = 12 := by rw [hpc]; rfl
  obtain ⟨-, h0, -, -, hgt⟩ := (hS.phase g hg).seated (by omega) (by omega)
  by_cases hig : i = g
  · exact hig ▸ hSv
  · exact absurd ((hgt t (by rw [hpc]; rfl)).symm.trans hat.symm)
      (hS.exclusive g i hg hi (Ne.symm hig) h0)

/-- Only the wait on `requestReceived[t]` in `orderFood` moves a token,
from the counter to the group that takes it. -/
theorem groupStep_requestReceived (hg : g < nGroups) (h : groupStep s g = some s') (t : Int) :
    s'.sem (.requestReceived t) = countGroups nGroups fun i =>
      decide ((s'.group i).idx = 9 ∧ (s'.group i).table? = some t ∧ i ∈ s'.ghost.informed) := by
  obtain ⟨-, -, -, -, -, -, -, -, -, -, -, -, -, -, hinf, -, e, hidx, -, hsem, hdown⟩ :=
    groupStep_frame h
  rw [hinf]
  have c := countGroups_update
    (p := fun i => decide ((s.group i).idx = 9 ∧ (s.group i).table? = some t ∧ i ∈ s.ghost.informed))
    (q := fun i => decide ((s'.group i).idx = 9 ∧ (s'.group i).table? = some t ∧
      i ∈ s.ghost.informed)) hg
    fun i hi => by beta_reduce; rw [e, Function.update_noteq hi]
  beta_reduce at c
  have hc := hK.requestReceived t
  by_cases hpc : s.group g = .orderFoodWait t
  · have hpos : 0 < s.sem (.requestReceived t) := by simpa [hpc] using hdown (by rw [hpc]; rfl)
    have hI := hK.informed_of_down hS hg hpc hpos
    have e1 : (decide ((s.group g).idx = 9 ∧ (s.group g).table? = some t ∧
        g ∈ s.ghost.informed)).toNat = 1 := by simp [hpc, GroupPc.idx, GroupPc.table?, hI]
    have e2 : (decide ((s'.group g).idx = 9 ∧ (s'.group g).table? = some t ∧
        g ∈ s.ghost.informed)).toNat = 0 := by rw [hidx, hpc]; simp [GroupPc.idx]
    rw [e1, e2] at c
    rw [hsem, hpc]
    simp only [GroupPc.semOp, GroupPc.holdsMutex, Function.update_same, Bool.false_eq_true, if_false]
    omega
  · have hne : Sem.requestReceived t ≠ (s.group g).semOp g := fun e' =>
      hpc (GroupPc.semOp_eq_requestReceived e'.symm)
    have hq : decide ((s'.group g).idx = 9 ∧ (s'.group g).table? = some t ∧
        g ∈ s.ghost.informed) = false := by
      simp only [decide_eq_false_iff_not, not_and]
      intro h9 _ hI
      exact (hK.early g hg (by omega)).1 hI
    have hp : decide ((s.group g).idx = 9 ∧ (s.group g).table? = some t ∧
        g ∈ s.ghost.informed) = false := by
      simp only [decide_eq_false_iff_not, not_and]
      intro h9 ht _
      obtain ⟨t', e'⟩ := GroupPc.eq_orderFoodWait h9
      rw [e'] at ht hpc
      simp only [GroupPc.table?, Option.some.injEq] at ht
      exact hpc (by rw [ht])
    rw [hsem, Function.update_noteq hne]
    rw [hq, hp] at c
    simp only [Bool.toNat_false] at c
    omega

/-- Only the wait on `foodArrived[t]` in `waitFood` moves a token, from
the counter to the group that takes it. -/
theorem groupStep_foodArrived (hg : g < nGroups) (h : groupStep s g = some s') (t : Int) :
    s'.sem (.foodArrived t) = countGroups nGroups fun i =>
      decide (i ∈ s'.ghost.served ∧ (s'.group i).idx ≤ 12 ∧ s'.assignedTable i = t) := by
  obtain ⟨-, hat, -, -, -, -, -, -, -, -, -, -, -, -, -, hsrv, e, hidx, -, hsem, hdown⟩ :=
    groupStep_frame h
  rw [hsrv, hat]
  have c := countGroups_update
    (p := fun i => decide (i ∈ s.ghost.served ∧ (s.group i).idx ≤ 12 ∧ s.assignedTable i = t))
    (q := fun i => decide (i ∈ s.ghost.served ∧ (s'.group i).idx ≤ 12 ∧ s.assignedTable i = t)) hg
    fun i hi => by beta_reduce; rw [e, Function.update_noteq hi]
  beta_reduce at c
  have hc := hK.foodArrived t
  by_cases hpc : s.group g = .waitFoodWait t
  · have hpos : 0 < s.sem (.foodArrived t) := by simpa [hpc] using hdown (by rw [hpc]; rfl)
    have hSv := hK.served_of_down hS hg hpc hpos
    have hg12 : (s.group g).idx = 12 := by rw [hpc]; rfl
    have hgt := ((hS.phase g hg).seated (by omega) (by omega)).2.2.2.2 t (by rw [hpc]; rfl)
    have e1 : (decide (g ∈ s.ghost.served ∧ (s.group g).idx ≤ 12 ∧
        s.assignedTable g = t)).toNat = 1 := by simp [hg12, hSv, hgt]
    have e2 : (decide (g ∈ s.ghost.served ∧ (s'.group g).idx ≤ 12 ∧
        s.assignedTable g = t)).toNat = 0 := by rw [hidx, hg12]; simp
    rw [e1, e2] at c
    rw [hsem, hpc]
    simp only [GroupPc.semOp, GroupPc.holdsMutex, Function.update_same, Bool.false_eq_true, if_false]
    omega
  · have hne : Sem.foodArrived t ≠ (s.group g).semOp g := fun e' =>
      hpc (GroupPc.semOp_eq_foodArrived e'.symm)
    have hpq : decide (g ∈ s.ghost.served ∧ (s'.group g).idx ≤ 12 ∧ s.assignedTable g = t) =
        decide (g ∈ s.ghost.served ∧ (s.group g).idx ≤ 12 ∧ s.assignedTable g = t) := by
      by_cases h12 : (s.group g).idx = 12
      · obtain ⟨t', e'⟩ := GroupPc.eq_waitFoodWait h12
        have hgt := ((hS.phase g hg).seated (by omega) (by omega)).2.2.2.2 t' (by rw [e']; rfl)
        have ht : s.assignedTable g ≠ t := fun ht => hpc (by rw [e', hgt, ht])
        simp [ht]
      · rw [hidx]
        simp only [show (s.group g).idx + 1 ≤ 12 ↔ (s.group g).idx ≤ 12 by omega]
    rw [hsem, Function.update_noteq hne]
    rw [hpq] at c
    omega

end Kitchen

/-- **A group's step keeps the kitchen's invariant.** -/
theorem Kitchen.groupStep (hg : g < nGroups) (hT : Tokens nGroups s)
    (hS : Seating NUMTABLES nGroups s) (hK : Kitchen NUMTABLES nGroups s)
    (h : groupStep s g = some s') : Kitchen NUMTABLES nGroups s' := by
  obtain ⟨-, hat, -, -, -, hW, hwreqs, hC, hcord, hfg, -, hwreads, how, hor, hinf, hsrv, e, hidx,
    -, hsem, hdown⟩ := groupStep_frame h
  have other : ∀ i, i ≠ g → s'.group i = s.group i := fun i hi => by
    rw [e, Function.update_noteq hi]
  have hpend := groupStep_waiterPending hg h
  have hcook : ∀ i, cookedWrites s' i = cookedWrites s i := fun i => by
    simp only [cookedWrites, hor, hC]
  have hfood : ∀ i, foodReads s' i = foodReads s i := fun i => by simp only [foodReads, hinf, hsrv]
  have hopend : orderPending s' = orderPending s := by
    unfold orderPending
    rw [hW, hC, hsem, Function.update_noteq (GroupPc.semOp_ne_waitOrder g _).symm]
  constructor
  case mail =>
    by_cases h6 : (s.group g).idx = 6
    · obtain ⟨hw, hq, -⟩ := groupStep_waiterPost h h6
      have h0 := waiterPending_eq_zero hT hg (GroupPc.posting_waiter h6).1
        (GroupPc.posting_waiter h6).2
      have hm := hK.mail
      rw [h0, List.replicate_zero, List.append_nil] at hm
      rw [hpend, h0, if_pos h6, hw, hq, hwreads, ← hm]
      rfl
    · obtain ⟨hq, hw⟩ := groupStep_waiterMail h h6
      rw [hpend, if_neg h6, hq, hw, hwreads, Nat.add_zero]
      exact hK.mail
  case writes =>
    intro i hi
    rw [hcook]
    by_cases h6 : (s.group g).idx = 6
    · obtain ⟨hw, -, hg'⟩ := groupStep_waiterPost h h6
      rw [hw, List.filter_append, hK.writes i hi]
      by_cases hig : i = g
      · subst hig
        rw [hg', hK.cookedWrites_eq_nil (by omega)]
        simp [GroupPc.waiterWrites, h6]
      · rw [other i hig]; simp [Ne.symm hig]
    · rw [(groupStep_waiterMail h h6).2, hK.writes i hi]
      by_cases hig : i = g
      · subst hig; rw [GroupPc.waiterWrites_succ hidx h6]
      · rw [other i hig]
  case writes_lt =>
    intro r hr
    by_cases h6 : (s.group g).idx = 6
    · rw [(groupStep_waiterPost h h6).1, List.mem_append, List.mem_singleton] at hr
      rcases hr with hr | rfl
      · exact hK.writes_lt r hr
      · exact hg
    · rw [(groupStep_waiterMail h h6).2] at hr
      exact hK.writes_lt r hr
  case reads => intro i hi; rw [hwreads, hfood, hW]; exact hK.reads i hi
  case orders => rw [hor, hopend, hfg, how]; exact hK.orders
  case ordered => rw [how, hinf, hW]; exact hK.ordered
  case ordered_lt => rw [how]; exact hK.ordered_lt
  case nodup => rw [how]; exact hK.nodup
  case slot => rw [hW, hfg]; exact hK.slot
  case chef => rw [hC, hor]; exact hK.chef
  case holds_lt => rw [hW]; exact hK.holds_lt
  case table => rw [hW, hat]; exact hK.table
  case early =>
    intro i hi h8
    rw [hinf, hW]
    by_cases hig : i = g
    · subst hig; exact hK.early i hi (by omega)
    · rw [other i hig] at h8; exact hK.early i hi h8
  case informed =>
    intro i hi h10
    rw [hinf]
    by_cases hig : i = g
    · subst hig
      by_cases h9 : (s.group i).idx = 9
      · obtain ⟨t, hpc⟩ := GroupPc.eq_orderFoodWait h9
        exact hK.informed_of_down hS hi hpc (by simpa [hpc] using hdown (by rw [hpc]; rfl))
      · exact hK.informed i hi (by omega)
    · rw [other i hig] at h10; exact hK.informed i hi h10
  case eaten =>
    intro i hi h13
    rw [hsrv]
    by_cases hig : i = g
    · subst hig
      by_cases h12 : (s.group i).idx = 12
      · obtain ⟨t, hpc⟩ := GroupPc.eq_waitFoodWait h12
        exact hK.served_of_down hS hi hpc (by simpa [hpc] using hdown (by rw [hpc]; rfl))
      · exact hK.eaten i hi (by omega)
    · rw [other i hig] at h13; exact hK.eaten i hi h13
  case requestReceived => exact hK.groupStep_requestReceived hS hg h
  case foodArrived => exact hK.groupStep_foodArrived hS hg h
  case served => rw [hwreqs, hW, hwreads]; exact hK.served
  case bounded => rw [hwreqs, hW]; exact hK.bounded
  case cooked => rw [hcord, hC, hor]; exact hK.cooked
  case chefBounded => rw [hcord, hC]; exact hK.chefBounded

end Restaurant
