import Restaurant.Seating.Invariant
/-!
# Restaurant — a group's step keeps the receptionist's invariant

A group moves only itself, one semaphore and, when it posts, a mailbox
(`groupStep_frame`): a group at a point where it holds `mutex` ups,
everywhere else it downs. Its own phase advances point by point
(`GroupPhase.groupStep`); every other group's phase is untouched
(`GroupPhase.congr`).
-/

namespace Restaurant

open State

variable {NUMTABLES nGroups : Nat} {s s' : State} {g : Nat}

/-- **What a group's step leaves alone.** -/
theorem groupStep_frame (h : groupStep s g = some s') :
    s'.groupRecord = s.groupRecord ∧ s'.assignedTable = s.assignedTable ∧
    s'.groupsWaiting = s.groupsWaiting ∧ s'.receptionist = s.receptionist ∧
    s'.receptionistReqs = s.receptionistReqs ∧ s'.waiter = s.waiter ∧
    s'.waiterReqs = s.waiterReqs ∧ s'.chef = s.chef ∧ s'.chefOrders = s.chefOrders ∧
    s'.foodGroup = s.foodGroup ∧ s'.ghost.receptionistReads = s.ghost.receptionistReads ∧
    s'.ghost.waiterReads = s.ghost.waiterReads ∧ s'.ghost.orderWrites = s.ghost.orderWrites ∧
    s'.ghost.orderReads = s.ghost.orderReads ∧ s'.ghost.informed = s.ghost.informed ∧
    s'.ghost.served = s.ghost.served ∧
    s'.group = Function.update s.group g (s'.group g) ∧
    (s'.group g).idx = (s.group g).idx + 1 ∧
    (∀ h, h ≠ g → s'.groupStat h = s.groupStat h) ∧
    s'.sem = Function.update s.sem ((s.group g).semOp g)
      (if (s.group g).holdsMutex then s.sem ((s.group g).semOp g) + 1
        else s.sem ((s.group g).semOp g) - 1) ∧
    ((s.group g).holdsMutex = false → 0 < s.sem ((s.group g).semOp g)) := by
  cases hp : s.group g <;>
    simp only [Restaurant.groupStep, hp, Option.map_eq_some', down_eq_some, Option.some.injEq,
      reduceCtorEq, false_and, exists_const] at h <;>
    obtain ⟨_, ⟨h0, rfl⟩, rfl⟩ := h <;>
    simp only [setGroup, setStat, postReceptionist, postWaiter, up, GroupPc.idx, GroupPc.semOp,
      GroupPc.holdsMutex, Function.update_same, ne_eq, and_self, ↓reduceIte, Nat.reduceAdd,
      implies_true, imp_self, Bool.false_eq_true, Bool.true_eq_false, IsEmpty.forall_iff, true_and,
      and_true, Nat.zero_add, *] <;>
    exact fun x hx => Function.update_noteq hx _ _

/-- The phase a group saves is the one its point says. -/
theorem groupStep_stat (h : groupStep s g = some s') (hs : s.groupStat g = (s.group g).stat) :
    s'.groupStat g = (s'.group g).stat := by
  cases hp : s.group g <;>
    simp only [Restaurant.groupStep, hp, Option.map_eq_some', down_eq_some, Option.some.injEq,
      reduceCtorEq, false_and, exists_const] at h <;>
    obtain ⟨_, ⟨-, rfl⟩, rfl⟩ := h <;>
    simp_all [setGroup, setStat, postReceptionist, postWaiter, up, GroupPc.stat, GroupPc.idx]

/-- A step drops the local `table_id`, keeps it, or reads it from
`assignedTable`. -/
theorem groupStep_table (h : groupStep s g = some s') :
    (s'.group g).table? = none ∨ (s'.group g).table? = some (s.assignedTable g) ∨
      (s'.group g).table? = (s.group g).table? := by
  cases hp : s.group g <;>
    simp only [Restaurant.groupStep, hp, Option.map_eq_some', down_eq_some, Option.some.injEq,
      reduceCtorEq, false_and, exists_const] at h <;>
    obtain ⟨_, ⟨-, rfl⟩, rfl⟩ := h <;>
    simp [setGroup, setStat, postReceptionist, postWaiter, up, GroupPc.table?]

/-- From `checkOutAtReception`'s read on, the group keeps its table. -/
theorem groupStep_table_of_le (h : groupStep s g = some s') (h17 : 17 ≤ (s.group g).idx) :
    (s'.group g).table? = (s.group g).table? := by
  cases hp : s.group g <;> simp only [hp, GroupPc.idx] at h17 <;> (try omega) <;>
    simp only [Restaurant.groupStep, hp, Option.map_eq_some', down_eq_some, Option.some.injEq,
      reduceCtorEq, false_and, exists_const] at h <;>
    obtain ⟨_, ⟨-, rfl⟩, rfl⟩ := h <;> simp [setGroup, GroupPc.table?]

/-- Only `checkInAtReception` and `checkOutAtReception` write the
receptionist's mailbox, each once. -/
theorem groupStep_receptionistMail (h : groupStep s g = some s')
    (h1 : (s.group g).idx ≠ 1) (h16 : (s.group g).idx ≠ 16) :
    s'.receptionistRequest = s.receptionistRequest ∧
      s'.ghost.receptionistWrites = s.ghost.receptionistWrites := by
  cases hp : s.group g <;> simp only [hp, GroupPc.idx] at h1 h16 <;> (try omega) <;>
    simp only [Restaurant.groupStep, hp, Option.map_eq_some', down_eq_some, Option.some.injEq,
      reduceCtorEq, false_and, exists_const] at h <;>
    obtain ⟨_, ⟨-, rfl⟩, rfl⟩ := h <;> exact ⟨rfl, rfl⟩

/-- The write of `checkInAtReception` or `checkOutAtReception`: group
`g`'s next request. -/
theorem groupStep_receptionistPost (h : groupStep s g = some s')
    (h1 : (s.group g).idx = 1 ∨ (s.group g).idx = 16) :
    s'.ghost.receptionistWrites = s.ghost.receptionistWrites ++ [s'.receptionistRequest] ∧
      (s'.group g).receptionistWrites g =
        (s.group g).receptionistWrites g ++ [s'.receptionistRequest] := by
  cases hp : s.group g <;> simp only [hp, GroupPc.idx] at h1 <;> (try omega) <;>
    simp only [Restaurant.groupStep, hp, Option.map_eq_some', down_eq_some, Option.some.injEq,
      reduceCtorEq, false_and, exists_const] at h <;>
    obtain ⟨_, ⟨-, rfl⟩, rfl⟩ := h <;>
    simp [setGroup, setStat, postReceptionist, GroupPc.receptionistWrites, GroupPc.idx]

/-- What is pending in the receptionist's mailbox grows by the post and
is otherwise unchanged: the signal `receptionistReq` takes over from the
posting group. -/
theorem groupStep_receptionistPending (hg : g < nGroups) (h : groupStep s g = some s') :
    receptionistPending nGroups s' = receptionistPending nGroups s +
      (if (s.group g).idx = 1 ∨ (s.group g).idx = 16 then 1 else 0) := by
  have c := countAt_update hg GroupPc.postsReceptionist s.group (s'.group g)
  rw [← groupStep_group h] at c
  unfold receptionistPending
  cases hp : s.group g <;>
    simp only [Restaurant.groupStep, hp, Option.map_eq_some', down_eq_some, Option.some.injEq,
      reduceCtorEq, false_and, exists_const] at h <;>
    obtain ⟨_, ⟨-, rfl⟩, rfl⟩ := h <;>
    simp only [hp, setGroup, setStat, postReceptionist, postWaiter, up, Function.update_same,
      GroupPc.postsReceptionist, GroupPc.idx, Bool.toNat_true, Bool.toNat_false] at c ⊢ <;>
    (try simp only [Function.update_same, Function.update_noteq, ne_eq, reduceCtorEq,
      not_false_eq_true]) <;>
    split_ifs <;> first | omega | simp_all

/-! ## Phases -/

/-- A group's phase reads only its own point, saved phase, record, table
and `waitForTable`, and whether the receptionist is about to wake it. -/
theorem GroupPhase.congr {s s' : State} (hP : GroupPhase NUMTABLES s g)
    (hpc : s'.group g = s.group g) (hst : s'.groupStat g = s.groupStat g)
    (hr : s'.groupRecord g = s.groupRecord g) (ha : s'.assignedTable g = s.assignedTable g)
    (hw : s'.sem (.waitForTable g) = s.sem (.waitForTable g))
    (hsig : s'.receptionist.signals = some g ↔ s.receptionist.signals = some g) :
    GroupPhase NUMTABLES s' g := by
  obtain ⟨h1, h2, h3, h4, h5⟩ := hP
  refine ⟨?_, ?_, ?_, ?_, ?_⟩ <;> simp only [AtReception, hpc, hst, hr, ha, hw, hsig, ne_eq] <;>
    assumption

/-- **The moving group's phase advances with its point.** -/
theorem GroupPhase.groupStep (hP : GroupPhase NUMTABLES s g)
    (hsig : s.receptionist.signals = some g → s.group g = .checkInWaitTable)
    (h : groupStep s g = some s') : GroupPhase NUMTABLES s' g := by
  obtain ⟨hrec, hat, -, hR, -, -, -, -, -, -, -, -, -, -, -, -, -, hidx, -, hsem, hdown⟩ :=
    groupStep_frame h
  have wft : (s.group g).idx ≠ 4 → s'.sem (.waitForTable g) = s.sem (.waitForTable g) := fun h4 => by
    rw [hsem, Function.update_noteq]
    intro e; exact h4 (by rw [(GroupPc.semOp_eq_waitForTable e.symm).1]; rfl)
  refine ⟨groupStep_stat h hP.stat, fun h3 => ?arr, fun he => ?atr, fun h5 h18 => ?sea,
    fun h19 => ?lea⟩
  case arr => rw [hrec, hat, wft (by omega)]; exact hP.arriving (by omega)
  case atr =>
    have h3 : (s.group g).idx = 3 := by
      have : (s'.group g).idx = 4 := by rw [he]; rfl
      omega
    obtain ⟨a, b, c⟩ := hP.arriving (by omega)
    refine .inl ⟨hrec ▸ a, hat ▸ b, (wft (by omega)).trans c, fun e => ?_⟩
    rw [hR] at e
    have := hsig e
    rw [this] at h3
    exact absurd h3 (by decide)
  case sea =>
    rw [hrec, hat]
    have table := groupStep_table h
    by_cases h4 : (s.group g).idx = 4
    · have hpc := GroupPc.eq_checkInWaitTable h4
      have hpos : 0 < s.sem (.waitForTable g) := by simpa [hpc] using hdown (by rw [hpc]; rfl)
      rcases hP.atReception hpc with ⟨-, -, h0, -⟩ | ⟨-, -, h0, -⟩ | ⟨hr, h0, hT, h1, -⟩ | ⟨-, h0, -⟩ <;>
        try omega
      refine ⟨hr, h0, hT, by rw [hsem, hpc]; simp [GroupPc.semOp, GroupPc.holdsMutex, h1], ?_⟩
      rintro t ht
      rcases table with e | e | e <;> rw [e] at ht
      · cases ht
      · exact (Option.some.inj ht).symm
      · rw [hpc] at ht; cases ht
    · obtain ⟨hr, h0, hT, hw, ht⟩ := hP.seated (by omega) (by omega)
      refine ⟨hr, h0, hT, (wft h4).trans hw, fun t e => ?_⟩
      rcases table with e' | e' | e' <;> rw [e'] at e
      · cases e
      · exact (Option.some.inj e).symm
      · exact ht t e
  case lea =>
    rw [hrec, hat, wft (by omega), groupStep_table_of_le h (by omega)]
    rcases Nat.lt_or_ge (s.group g).idx 19 with h18 | h19
    · obtain ⟨hr, h0, hT, hw, ht⟩ := hP.seated (by omega) (by omega)
      obtain ⟨t, e⟩ := GroupPc.table?_of_le (show 17 ≤ (s.group g).idx by omega)
      obtain rfl := ht t e
      exact ⟨hw, _, e, h0, hT, .inl ⟨hr, rfl⟩⟩
    · exact hP.leaving h19

/-- Only a group past its checkout wait has been paid for. -/
theorem GroupPhase.idx_of_done (hP : GroupPhase NUMTABLES s g) (hd : s.groupRecord g = .DONE) :
    19 ≤ (s.group g).idx := by
  by_contra hlt
  rcases Nat.lt_or_ge (s.group g).idx 4 with h4 | h4
  · simp [(hP.arriving (by omega)).1] at hd
  · rcases Nat.lt_or_ge (s.group g).idx 5 with h5 | h5
    · rcases hP.atReception (GroupPc.eq_checkInWaitTable (by omega)) with
        ⟨e, -⟩ | ⟨e, -⟩ | ⟨e, -⟩ | ⟨e, -⟩ <;> simp [e] at hd
    · simp [(hP.seated h5 (by omega)).1] at hd

/-! ## The checkout accounting -/

/-- Only the wait on `tableDone[t]` in `checkOutAtReception` moves a
token, from the counter to the groups past that wait. -/
theorem groupStep_tableDone (hg : g < nGroups) (h : groupStep s g = some s') (t : Int) :
    s'.sem (.tableDone t) + countGroups nGroups
        (fun i => decide (20 ≤ (s'.group i).idx ∧ (s'.group i).table? = some t)) =
      s.sem (.tableDone t) + countGroups nGroups
        (fun i => decide (20 ≤ (s.group i).idx ∧ (s.group i).table? = some t)) := by
  obtain ⟨-, -, -, -, -, -, -, -, -, -, -, -, -, -, -, -, e, hidx, -, hsem, hdown⟩ :=
    groupStep_frame h
  have c := countGroups_update
    (p := fun i => decide (20 ≤ (s.group i).idx ∧ (s.group i).table? = some t))
    (q := fun i => decide (20 ≤ (s'.group i).idx ∧ (s'.group i).table? = some t)) hg
    fun i hi => by beta_reduce; rw [e, Function.update_noteq hi]
  beta_reduce at c
  by_cases hpc : s.group g = .checkOutWait t
  · have hpos : 0 < s.sem (.tableDone t) := by simpa [hpc] using hdown (by rw [hpc]; rfl)
    have h19 : (s.group g).idx = 19 := by rw [hpc]; rfl
    have ht : (s'.group g).table? = some t := by
      rw [groupStep_table_of_le h (by omega), hpc]; rfl
    have e1 : (decide (20 ≤ 19 ∧ (s.group g).table? = some t)).toNat = 0 := by simp
    have e2 : (decide (20 ≤ 19 + 1 ∧ some t = some t)).toNat = 1 := by simp
    rw [hidx, h19, ht, e1, e2] at c
    rw [hsem, hpc]
    simp only [GroupPc.semOp, GroupPc.holdsMutex, Function.update_same, Bool.false_eq_true,
      if_false]
    omega
  · have hne : Sem.tableDone t ≠ (s.group g).semOp g := fun e' =>
      hpc (GroupPc.semOp_eq_tableDone e'.symm)
    have hPg : decide (20 ≤ (s'.group g).idx ∧ (s'.group g).table? = some t) =
        decide (20 ≤ (s.group g).idx ∧ (s.group g).table? = some t) := by
      rcases Nat.lt_trichotomy (s.group g).idx 19 with h19 | h19 | h19
      · simp only [hidx]; simp [show ¬ 20 ≤ (s.group g).idx + 1 by omega,
          show ¬ 20 ≤ (s.group g).idx by omega]
      · obtain ⟨t0, hpc0⟩ := GroupPc.eq_checkOutWait h19
        have ht0 : t0 ≠ t := fun e' => hpc (e' ▸ hpc0)
        rw [groupStep_table_of_le h (by omega), hpc0]
        simp [GroupPc.table?, ht0]
      · rw [groupStep_table_of_le h (by omega), hidx]
        simp [show 20 ≤ (s.group g).idx + 1 by omega, show 20 ≤ (s.group g).idx by omega]
    rw [hsem, Function.update_noteq hne]
    rw [hPg] at c
    omega

/-- No step of a group changes whom the receptionist has paid for. -/
theorem groupStep_doneCount (hP : GroupPhase NUMTABLES s g) (h : groupStep s g = some s')
    (t : Int) :
    countGroups nGroups (fun i => decide (s'.groupRecord i = .DONE ∧ (s'.group i).table? = some t)) =
      countGroups nGroups fun i => decide (s.groupRecord i = .DONE ∧ (s.group i).table? = some t) := by
  obtain ⟨hrec, -, -, -, -, -, -, -, -, -, -, -, -, -, -, -, e, -⟩ := groupStep_frame h
  refine countGroups_congr fun i _ => ?_
  rw [hrec]
  by_cases hi : i = g
  · subst hi
    by_cases hd : s.groupRecord i = .DONE
    · rw [groupStep_table_of_le h (by have := hP.idx_of_done hd; omega)]
    · simp [hd]
  · rw [e, Function.update_noteq hi]

/-! ## The invariant -/

/-- A group about to be woken is blocked on `waitForTable`. -/
theorem Seating.waitForTable_eq_zero (hS : Seating NUMTABLES nGroups s) (hg : g < nGroups)
    (hpc : s.group g = .checkInWaitTable) (hr : s.receptionist.signals = some g) :
    s.sem (.waitForTable g) = 0 := by
  rcases (hS.phase g hg).atReception hpc with ⟨-, -, h0, -⟩ | ⟨-, -, h0, -⟩ | ⟨-, -, -, -, hne⟩ |
    ⟨-, h0, -⟩
  all_goals first | assumption | exact absurd hr hne

/-- **A group's step keeps the receptionist's invariant.** -/
theorem Seating.groupStep (hg : g < nGroups) (hT : Tokens nGroups s)
    (hS : Seating NUMTABLES nGroups s) (h : groupStep s g = some s') :
    Seating NUMTABLES nGroups s' := by
  obtain ⟨hrec, hat, hgw, hR, hreqs, -, -, -, -, -, hreads, -, -, -, -, -, e, hidx, hst, hsem,
    hdown⟩ := groupStep_frame h
  have other : ∀ i, i ≠ g → s'.group i = s.group i := fun i hi => by
    rw [e, Function.update_noteq hi]
  have hwft : ∀ i, i ≠ g → s'.sem (.waitForTable i) = s.sem (.waitForTable i) := fun i hi => by
    rw [hsem, Function.update_noteq]
    exact fun e' => hi (GroupPc.semOp_eq_waitForTable e'.symm).2
  have blocked : s.group g = .checkInWaitTable → s.receptionist.signals ≠ some g := fun hpc hr => by
    have hpos : 0 < s.sem (.waitForTable g) := by simpa [hpc] using hdown (by rw [hpc]; rfl)
    have := hS.waitForTable_eq_zero hg hpc hr
    omega
  have hpend := groupStep_receptionistPending hg h
  have hwait : waitingGroups nGroups s' = waitingGroups nGroups s := by
    simp only [waitingGroups, hrec]
  constructor
  case mail =>
    by_cases hpost : (s.group g).idx = 1 ∨ (s.group g).idx = 16
    · have h0 := receptionistPending_eq_zero hT hg (GroupPc.posting hpost).1 (GroupPc.posting hpost).2
      have hm := hS.mail
      rw [h0, List.replicate_zero, List.append_nil] at hm
      rw [hpend, h0, if_pos hpost, (groupStep_receptionistPost h hpost).1, hreads, ← hm]
      rfl
    · obtain ⟨hq, hw⟩ := groupStep_receptionistMail h (by omega) (by omega)
      rw [hpend, if_neg hpost, hq, hw, hreads, Nat.add_zero]
      exact hS.mail
  case writes =>
    intro i hi
    by_cases hpost : (s.group g).idx = 1 ∨ (s.group g).idx = 16
    · obtain ⟨hw, hg'⟩ := groupStep_receptionistPost h hpost
      have hr : s'.receptionistRequest.reqGroup = g :=
        GroupPc.reqGroup_of_mem_receptionistWrites (by rw [hg']; simp)
      rw [hw, List.filter_append, hS.writes i hi]
      by_cases hig : i = g
      · subst hig; rw [hg']; simp [hr]
      · rw [other i hig]; simp [hr, Ne.symm hig]
    · rw [(groupStep_receptionistMail h (by omega) (by omega)).2, hS.writes i hi]
      by_cases hig : i = g
      · subst hig; exact (GroupPc.receptionistWrites_succ hidx (by omega) (by omega)).symm
      · rw [other i hig]
  case writes_lt =>
    intro r hr
    by_cases hpost : (s.group g).idx = 1 ∨ (s.group g).idx = 16
    · obtain ⟨hw, hg'⟩ := groupStep_receptionistPost h hpost
      rw [hw, List.mem_append, List.mem_singleton] at hr
      rcases hr with hr | rfl
      · exact hS.writes_lt r hr
      · rw [GroupPc.reqGroup_of_mem_receptionistWrites (by rw [hg']; simp)]; exact hg
    · rw [(groupStep_receptionistMail h (by omega) (by omega)).2] at hr
      exact hS.writes_lt r hr
  case reads => intro i hi; rw [hreads, hrec, hR]; exact hS.reads i hi
  case read_table =>
    intro i hm
    rw [hreads] at hm
    have := hS.read_table i hm
    by_cases hig : i = g
    · subst hig; omega
    · rwa [other i hig]
  case read_bill =>
    intro i hm
    rw [hreads] at hm
    have := hS.read_bill i hm
    by_cases hig : i = g
    · subst hig; omega
    · rwa [other i hig]
  case phase =>
    intro i hi
    by_cases hig : i = g
    · subst hig; exact (hS.phase i hi).groupStep (fun e => (hS.signals_eq e).2) h
    · exact (hS.phase i hi).congr (other i hig) (hst i hig) (congrFun hrec i) (congrFun hat i)
        (hwft i hig) (by rw [hR])
  case provide =>
    intro i hr
    rw [hR] at hr
    obtain ⟨hlt, hpc, ht⟩ := hS.provide i hr
    refine ⟨hlt, ?_, by rwa [hat]⟩
    by_cases hig : i = g
    · subst hig; exact absurd (by rw [hr]; rfl) (blocked hpc)
    · rwa [other i hig]
  case handing =>
    intro p ng t hr
    rw [hR] at hr
    obtain ⟨a, b, c, d, f, k⟩ := hS.handing p ng t hr
    by_cases hig : ng = g
    · subst hig; exact absurd (by rw [hr]; rfl) (blocked b)
    · exact ⟨a, by rwa [other ng hig], by rwa [hat], d, f, by rwa [hat]⟩
  case paying =>
    intro p t hp
    rw [hR] at hp
    obtain ⟨a, b, c, d⟩ := hS.paying p t hp
    rw [hrec]
    by_cases hig : p = g
    · subst hig; exact ⟨a, b, by rwa [groupStep_table_of_le h (by omega)], by omega⟩
    · rw [other p hig]; exact ⟨a, b, c, d⟩
  case holds_lt => rw [hR]; exact hS.holds_lt
  case not_aborted => rw [hR]; exact hS.not_aborted
  case groupsWaiting => rw [hgw, hwait, hR]; exact hS.groupsWaiting
  case tablesFull => rw [hgw, hat, hR]; exact hS.tablesFull
  case exclusive => rw [hat]; exact hS.exclusive
  case tableDone =>
    intro t
    have h1 := hS.tableDone t
    have h2 := groupStep_tableDone hg h t
    rw [hR, groupStep_doneCount (hS.phase g hg) h t]
    omega
  case served => rw [hreqs, hR, hreads]; exact hS.served
  case bounded => rw [hreqs, hR]; exact hS.bounded

end Restaurant
