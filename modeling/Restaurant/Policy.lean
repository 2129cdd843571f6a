import Restaurant.Calls
/-!
# Restaurant — the seating policy

What the receptionist is for, stated without processes or semaphores.
Each group is `arriving`, `queued`, `seated` at a table, or `done`, and
one decision of the receptionist moves one or two groups at once
(`PolicyStep`): an arriving group takes the lowest free table, or is
queued when every table is taken; a paying group leaves, and its table
goes to the lowest queued group if there is one. The policy keeps
`PolicyInv` (a seat is a table, a table seats one group, and somebody
is queued only while every table is taken) at each of its steps
(`PolicyStep.inv`).

`seating s` reads the policy's state off the receptionist's records and
`assignedTable`; the group a freed table is handed to counts as seated
from the moment `receivePayment` chooses it. Every step of the
restaurant leaves `seating` alone or is one policy step
(`seating_step`): the restaurant refines the policy (`seating_refines`),
and so keeps the policy's invariant (`seating_policyInv`).
-/

namespace Restaurant

open State

/-! ## The policy -/

/-- Where a group stands in the seating policy. -/
inductive Seat where
  | arriving
  | queued
  | seated (table : Int)
  | done
  deriving DecidableEq, Repr

/-- No group below `nGroups` is seated at `t`. -/
def Vacant (nGroups : Nat) (σ : Nat → Seat) (t : Int) : Prop :=
  ∀ g, g < nGroups → σ g ≠ .seated t

/-- `w` is the lowest-numbered queued group. -/
def FirstQueued (nGroups : Nat) (σ : Nat → Seat) (w : Nat) : Prop :=
  w < nGroups ∧ σ w = .queued ∧ ∀ h, h < w → σ h ≠ .queued

/-- **The seating policy**, one decision of the receptionist at a time. -/
inductive PolicyStep (NUMTABLES nGroups : Nat) (σ : Nat → Seat) : (Nat → Seat) → Prop
  /-- An arriving group takes the lowest free table. -/
  | seat {g t : Nat} : g < nGroups → σ g = .arriving → t < NUMTABLES → Vacant nGroups σ t →
      (∀ t' : Nat, t' < t → ¬ Vacant nGroups σ t') →
      PolicyStep NUMTABLES nGroups σ (Function.update σ g (.seated t))
  /-- An arriving group is queued when every table is taken. -/
  | queue {g : Nat} : g < nGroups → σ g = .arriving →
      (∀ t : Nat, t < NUMTABLES → ¬ Vacant nGroups σ t) →
      PolicyStep NUMTABLES nGroups σ (Function.update σ g .queued)
  /-- A paying group leaves its table free when nobody is queued. -/
  | leave {g : Nat} {t : Int} : g < nGroups → σ g = .seated t →
      (∀ w, w < nGroups → σ w ≠ .queued) →
      PolicyStep NUMTABLES nGroups σ (Function.update σ g .done)
  /-- A paying group's table goes to the lowest queued group. -/
  | handOver {g w : Nat} {t : Int} : g < nGroups → σ g = .seated t → FirstQueued nGroups σ w →
      PolicyStep NUMTABLES nGroups σ (Function.update (Function.update σ g .done) w (.seated t))

/-- **What the policy keeps**: a seat is a table, a table seats one
group, and a group is queued only while every table is taken. -/
structure PolicyInv (NUMTABLES nGroups : Nat) (σ : Nat → Seat) : Prop where
  table : ∀ g t, g < nGroups → σ g = .seated t → 0 ≤ t ∧ t < NUMTABLES
  exclusive : ∀ g h t, g < nGroups → h < nGroups → σ g = .seated t → σ h = .seated t → g = h
  full : ∀ w, w < nGroups → σ w = .queued → ∀ t : Nat, t < NUMTABLES → ¬ Vacant nGroups σ t

section Policy

variable {NUMTABLES nGroups : Nat} {σ σ' : Nat → Seat}

theorem PolicyInv.empty : PolicyInv NUMTABLES nGroups fun _ => .arriving :=
  ⟨fun _ _ _ e => (by cases e), fun _ _ _ _ _ e => (by cases e), fun _ _ e => (by cases e)⟩

/-- Moving group `g` to `v` keeps tables valid and exclusive when `v` is
no table, or a valid table nobody else sits at. -/
theorem PolicyInv.seats_update {g : Nat} {v : Seat}
    (htable : ∀ h t, h < nGroups → σ h = .seated t → 0 ≤ t ∧ t < NUMTABLES)
    (hexcl : ∀ a b t, a < nGroups → b < nGroups → σ a = .seated t → σ b = .seated t → a = b)
    (hv : ∀ t, v = .seated t → (0 ≤ t ∧ t < NUMTABLES) ∧ ∀ h, h < nGroups → h ≠ g → σ h ≠ .seated t) :
    (∀ h t, h < nGroups → Function.update σ g v h = .seated t → 0 ≤ t ∧ t < NUMTABLES) ∧
    ∀ a b t, a < nGroups → b < nGroups → Function.update σ g v a = .seated t →
      Function.update σ g v b = .seated t → a = b := by
  refine ⟨fun h t hh e => ?_, fun a b t ha hb ea eb => ?_⟩
  · by_cases hg : h = g
    · subst hg; rw [Function.update_same] at e; exact (hv t e).1
    · rw [Function.update_noteq hg] at e; exact htable h t hh e
  · by_cases hag : a = g <;> by_cases hbg : b = g
    · rw [hag, hbg]
    · subst hag; rw [Function.update_same] at ea; rw [Function.update_noteq hbg] at eb
      exact absurd eb ((hv t ea).2 b hb hbg)
    · subst hbg; rw [Function.update_same] at eb; rw [Function.update_noteq hag] at ea
      exact absurd ea ((hv t eb).2 a ha hag)
    · rw [Function.update_noteq hag] at ea; rw [Function.update_noteq hbg] at eb
      exact hexcl a b t ha hb ea eb

/-- A table taken before a step that frees no table stays taken. -/
theorem not_vacant_update {g : Nat} {v : Seat} (hg : ∀ t, σ g ≠ .seated t) {t : Int}
    (h : ¬ Vacant nGroups σ t) : ¬ Vacant nGroups (Function.update σ g v) t := by
  intro hv
  refine h fun i hi e => hv i hi ?_
  rwa [Function.update_noteq (fun e' => hg t (by rw [← e']; exact e))]

/-- **The policy keeps its invariant.** -/
theorem PolicyStep.inv (I : PolicyInv NUMTABLES nGroups σ) (h : PolicyStep NUMTABLES nGroups σ σ') :
    PolicyInv NUMTABLES nGroups σ' := by
  cases h with
  | @seat g t hg ha ht hv _ =>
    obtain ⟨h1, h2⟩ := PolicyInv.seats_update (v := .seated t) I.table I.exclusive fun t' e => by
      cases e; exact ⟨⟨Int.ofNat_nonneg _, Int.ofNat_lt.2 ht⟩, fun h hh _ => hv h hh⟩
    refine ⟨h1, h2, fun w hw ew => ?_⟩
    have hwg : w ≠ g := fun e => by subst e; simp at ew
    exact absurd hv (I.full w hw (by rwa [Function.update_noteq hwg] at ew) _ ht)
  | @queue g hg ha hfull =>
    obtain ⟨h1, h2⟩ := PolicyInv.seats_update (v := .queued) I.table I.exclusive fun t e => by
      cases e
    exact ⟨h1, h2, fun _ _ _ t ht => not_vacant_update (by simp [ha]) (hfull t ht)⟩
  | @leave g t hg hs hq =>
    obtain ⟨h1, h2⟩ := PolicyInv.seats_update (v := .done) I.table I.exclusive fun t e => by cases e
    refine ⟨h1, h2, fun w hw ew => ?_⟩
    have hwg : w ≠ g := fun e => by subst e; simp at ew
    exact absurd (by rwa [Function.update_noteq hwg] at ew) (hq w hw)
  | @handOver g w t hg hs hw =>
    have hwg : w ≠ g := fun e => by subst e; rw [hw.2.1] at hs; cases hs
    obtain ⟨h1, h2⟩ := PolicyInv.seats_update (v := .done) I.table I.exclusive fun t e => by cases e
    obtain ⟨h1, h2⟩ := PolicyInv.seats_update (v := .seated t) h1 h2 fun t' e => by
      cases e
      refine ⟨I.table g t hg hs, fun h hh hhw e => ?_⟩
      by_cases hhg : h = g
      · subst hhg; rw [Function.update_same] at e; cases e
      · rw [Function.update_noteq hhg] at e; exact hhg (I.exclusive h g t hh hg e hs)
    refine ⟨h1, h2, fun v hv ev t' ht' hvac => ?_⟩
    have hvw : v ≠ w := fun e => by subst e; simp at ev
    have hvg : v ≠ g := fun e => by subst e; simp [hwg.symm] at ev
    rw [Function.update_noteq hvw, Function.update_noteq hvg] at ev
    refine I.full v hv ev t' ht' fun h hh e => ?_
    by_cases hhg : h = g
    · subst hhg; rw [hs] at e; cases e; exact hvac w hw.1 (by simp)
    · have hhw : h ≠ w := fun e' => by subst e'; rw [hw.2.1] at e; cases e
      exact hvac h hh (by rwa [Function.update_noteq hhw, Function.update_noteq hhg])

end Policy

/-! ## Reading the policy off the receptionist's data -/

/-- A group's standing by its record and its `assignedTable`. -/
def GroupRecord.seat (table : Int) : GroupRecord → Seat
  | .TOARRIVE => .arriving
  | .WAIT => .queued
  | .ATTABLE => .seated table
  | .DONE => .done

/-- The policy's state in `s`: each group's record and table, with the
group chosen for a freed table seated there from the moment it is
chosen. -/
def seating (s : State) (g : Nat) : Seat :=
  match s.receptionist with
  | .receivePaymentSignal _ next table =>
      if g = next then .seated table else (s.groupRecord g).seat (s.assignedTable g)
  | _ => (s.groupRecord g).seat (s.assignedTable g)

variable {NUMTABLES nGroups : Nat} {s s' : State}

@[simp] theorem GroupRecord.seat_eq_queued {r : GroupRecord} {t : Int} :
    r.seat t = .queued ↔ r = .WAIT := by
  cases r <;> simp [seat]

/-- Outside a hand-over the policy's state is the records'. -/
theorem seating_of_handing (hh : s.receptionist.handing = false) (g : Nat) :
    seating s g = (s.groupRecord g).seat (s.assignedTable g) := by
  unfold seating
  split
  · rename_i e; simp [e, ReceptionistPc.handing] at hh
  · rfl

/-- `seating` reads only the receptionist, the records and the tables. -/
theorem seating_congr (hr : s'.receptionist = s.receptionist)
    (hg : s'.groupRecord = s.groupRecord) (ha : s'.assignedTable = s.assignedTable) :
    seating s' = seating s := by
  unfold seating; rw [hr, hg, ha]

theorem Initial.seating (h : Initial s) : seating s = fun _ => .arriving := by
  funext g
  rw [seating_of_handing (by rw [h.receptionist]; rfl), h.groupRecord]
  rfl

/-- The lowest queued group by the policy is the lowest `WAIT` record. -/
theorem firstQueued_iff (hh : s.receptionist.handing = false) {w : Nat} :
    FirstQueued nGroups (seating s) w ↔ LowestWaiting nGroups s.groupRecord w := by
  simp only [FirstQueued, LowestWaiting, seating_of_handing hh, ne_eq, GroupRecord.seat_eq_queued]

namespace Seating

variable (hS : Seating NUMTABLES nGroups s)
include hS

/-- A group holds a table by its record exactly when `assignedTable`
says so. -/
theorem seat_eq_seated {g : Nat} (hg : g < nGroups) {t : Int} (h0 : 0 ≤ t) :
    (s.groupRecord g).seat (s.assignedTable g) = .seated t ↔ s.assignedTable g = t := by
  rcases hS.record_table hg with ⟨e, e'⟩ | ⟨e, e'⟩ | ⟨e, -⟩ | ⟨e, e'⟩ | ⟨e, -⟩ <;>
    simp only [e, GroupRecord.seat, Seat.seated.injEq, reduceCtorEq, false_iff] <;> omega

/-- A table is free by the policy exactly when no `assignedTable` names
it. -/
theorem vacant_iff (hh : s.receptionist.handing = false) (t : Nat) :
    Vacant nGroups (seating s) t ↔ TableFree nGroups s.assignedTable t := by
  simp only [Vacant, TableFree, seating_of_handing hh]
  exact forall₂_congr fun g hg => not_congr (hS.seat_eq_seated hg (Int.ofNat_nonneg t))

end Seating

/-! ## The restaurant refines the policy -/

/-- A queued record stays queued when a group that is not queued pays. -/
theorem update_done_eq_wait_iff {groupRecord : Nat → GroupRecord} {g i : Nat}
    (hg : groupRecord g ≠ .WAIT) :
    Function.update groupRecord g .DONE i = .WAIT ↔ groupRecord i = .WAIT := by
  by_cases hi : i = g
  · subst hi; simp [hg]
  · rw [Function.update_noteq hi]

/-- **Seating or queueing is one policy step.** The critical section of
`provideTableOrWaitingRoom` makes, whatever `semDown` left in the
counters, the policy's `seat` when the scan finds a table and its
`queue` when it does not. -/
theorem provideTableOrWaitingRoom_policyStep (hS : Seating NUMTABLES nGroups s) {g : Nat}
    (hp : s.receptionist = .provideTableOrWaitingRoom g) (m : Sem → Nat) :
    PolicyStep NUMTABLES nGroups (seating s)
      (seating (provideTableOrWaitingRoom NUMTABLES nGroups { s with sem := m } g)) := by
  have hh : s.receptionist.handing = false := by rw [hp]; rfl
  obtain ⟨hg, hrec, -⟩ := hS.holds_table (by rw [hp]; rfl)
  have ha : seating s g = .arriving := by rw [seating_of_handing hh, hrec]; rfl
  have hc : ((({ s with sem := m } : State).groupRecord g)).code < 2 := by
    show (s.groupRecord g).code < 2; rw [hrec]; decide
  rcases @scanTables_eq NUMTABLES nGroups s.assignedTable with ⟨t, ⟨ht, hfree, hmin⟩, e⟩ | ⟨hall, e⟩
  · rw [provideTableOrWaitingRoom_of_le hc (by show 0 ≤ scanTables s.assignedTable _ _ _; omega)]
    convert PolicyStep.seat hg ha ht ((hS.vacant_iff hh t).2 hfree)
      (fun t' h' => mt (hS.vacant_iff hh t').1 (hmin t' h')) using 1
    funext i
    by_cases hi : i = g
    · subst hi; simp [seating, e, GroupRecord.seat]
    · simp [seating, hi, hp]
  · rw [provideTableOrWaitingRoom_of_lt hc (by show scanTables s.assignedTable _ _ _ < 0; omega)]
    convert PolicyStep.queue hg ha fun t ht => mt (hS.vacant_iff hh t).1 (hall t ht) using 1
    funext i
    by_cases hi : i = g
    · subst hi; simp [seating, GroupRecord.seat]
    · simp [seating, hi, hp]

/-- **A payment is one policy step.** The critical section of
`receivePayment` makes the policy's `handOver` when `decideNextGroup`
names a group, and its `leave` otherwise; then nobody is queued, for
`groupsWaiting` counts the queue. -/
theorem receivePayment_policyStep (hS : Seating NUMTABLES nGroups s) {g : Nat}
    (hp : s.receptionist = .receivePayment g) (m : Sem → Nat) :
    PolicyStep NUMTABLES nGroups (seating s)
      (seating (receivePayment nGroups { s with sem := m } g)) := by
  have hh : s.receptionist.handing = false := by rw [hp]; rfl
  obtain ⟨hg, hrec, -⟩ := hS.holds_bill (by rw [hp]; rfl)
  have hseat : seating s g = .seated (s.assignedTable g) := by rw [seating_of_handing hh, hrec]; rfl
  have hgw : s.groupsWaiting = waitingGroups nGroups s := by
    have := hS.groupsWaiting; rw [hh, Bool.toNat_false] at this; omega
  have hnw : s.groupRecord g ≠ .WAIT := by rw [hrec]; decide
  have hleave (hnone : ¬ (0 : Int) < s.groupsWaiting ∨
      scanWaiting (Function.update s.groupRecord g .DONE) nGroups 0 = none)
      (hq : ∀ w, w < nGroups → s.groupRecord w ≠ .WAIT) :
      PolicyStep NUMTABLES nGroups (seating s)
        (seating (receivePayment nGroups { s with sem := m } g)) := by
    rw [receivePayment_of_none (s := { s with sem := m }) hnone]
    convert PolicyStep.leave hg hseat fun w hw => by
      rw [seating_of_handing hh, ne_eq, GroupRecord.seat_eq_queued]; exact hq w hw using 1
    funext i
    by_cases hi : i = g
    · subst hi; simp [seating, GroupRecord.seat]
    · simp [seating, hi, hp]
  by_cases hpos : (0 : Int) < s.groupsWaiting
  · rcases @scanWaiting_eq nGroups (Function.update s.groupRecord g .DONE) with
      ⟨w, ⟨hw, hwait, hmin⟩, e⟩ | ⟨hall, e⟩
    · rw [receivePayment_of_some (s := { s with sem := m }) hpos e]
      have hwg : w ≠ g := fun e' => by subst e'; simp at hwait
      have hfirst : FirstQueued nGroups (seating s) w := (firstQueued_iff hh).2
        ⟨hw, (update_done_eq_wait_iff hnw).1 hwait,
          fun i hi => mt (update_done_eq_wait_iff hnw).2 (hmin i hi)⟩
      convert PolicyStep.handOver hg hseat hfirst using 1
      funext i
      by_cases hiw : i = w
      · subst hiw; simp [seating]
      · by_cases hi : i = g
        · subst hi; simp [seating, hiw, GroupRecord.seat]
        · simp [seating, hi, hiw, hp]
    · exact hleave (.inr e) fun w hw => mt (update_done_eq_wait_iff hnw).2 (hall w hw)
  · refine hleave (.inl hpos) fun w hw hwt => hpos ?_
    have : 0 < waitingGroups nGroups s := countGroups_pos.2 ⟨w, hw, by simp [hwt]⟩
    omega

/-- Waking the chosen group and writing its table only catches the
records up with the policy. -/
theorem seating_receivePaymentSignal (hS : Seating NUMTABLES nGroups s) {p ng : Nat} {t : Int}
    (hp : s.receptionist = .receivePaymentSignal p ng t) (s' : State)
    (e : s' = { s.up (.waitForTable ng) with
      groupsWaiting := s.groupsWaiting - 1
      assignedTable := Function.update s.assignedTable ng t
      receptionist := .receivePaymentLeave p t }) :
    seating s' = seating s := by
  subst e
  funext i
  by_cases hi : i = ng
  · subst hi; simp [seating, hp, up, hS.handing_attable hp, GroupRecord.seat]
  · simp [seating, hp, up, hi]

/-- **Every receptionist step is a stutter or one policy step.** -/
theorem seating_receptionistStep (hS : Seating NUMTABLES nGroups s)
    (h : receptionistStep NUMTABLES nGroups s = some s') :
    seating s' = seating s ∨ PolicyStep NUMTABLES nGroups (seating s) (seating s') := by
  cases hp : s.receptionist <;> simp only [Restaurant.receptionistStep, hp] at h <;>
    (try split at h) <;>
    simp only [Option.map_eq_some', down_eq_some, Option.some.injEq, reduceCtorEq, false_and,
      exists_const] at h
  all_goals obtain ⟨_, ⟨-, rfl⟩, rfl⟩ := h
  case provideTableOrWaitingRoom => exact .inr (provideTableOrWaitingRoom_policyStep hS hp _)
  case receivePayment => exact .inr (receivePayment_policyStep hS hp _)
  case receivePaymentSignal => exact .inl (seating_receivePaymentSignal hS hp _ rfl)
  all_goals exact .inl (funext fun _ => by simp [seating, hp, up])

/-- **Every step of the restaurant is a stutter or one policy step**:
only the receptionist moves the policy's state. -/
theorem seating_step (hS : Seating NUMTABLES nGroups s) {a : Actor}
    (h : step NUMTABLES nGroups s a = some s') :
    seating s' = seating s ∨ PolicyStep NUMTABLES nGroups (seating s) (seating s') := by
  cases a with
  | group g =>
    simp only [Restaurant.step] at h
    split at h
    · obtain ⟨h1, h2, -, h4, -⟩ := groupStep_frame h
      exact .inl (seating_congr h4 h1 h2)
    · cases h
  | receptionist => exact seating_receptionistStep hS h
  | waiter =>
    obtain ⟨-, -, h3, h4, -, -, -, -, h9, -⟩ := waiterStep_frame h
    exact .inl (seating_congr h9 h3 h4)
  | chef =>
    obtain ⟨-, -, h3, h4, -, -, -, -, h9, -⟩ := chefStep_frame h
    exact .inl (seating_congr h9 h3 h4)

/-- **The restaurant refines the seating policy.** An initial state's
seating is the policy's start, everybody arriving, and every step from a
reachable state leaves the seating alone or is one policy step: an
arriving group is seated at the lowest free table or queued when every
table is taken, and a freed table goes to the lowest queued group. -/
theorem seating_refines :
    (∀ s, Initial s → seating s = fun _ => .arriving) ∧
    ∀ s a s', Reachable NUMTABLES nGroups s → step NUMTABLES nGroups s a = some s' →
      seating s' = seating s ∨ PolicyStep NUMTABLES nGroups (seating s) (seating s') :=
  ⟨fun _ hi => hi.seating, fun _ _ _ h hs => seating_step (seating_reachable h).2 hs⟩

/-- `payingState` after the receptionist's critical section of
`receivePayment`: group 0 has paid and table 0 is being handed to the
queued group 1. -/
def handOverState : State := (step 1 2 payingState .receptionist).getD payingState

set_option maxRecDepth 10000 in
theorem seating_refines_payingState :
    seating payingState 1 = .queued ∧ seating handOverState 1 = .seated 0 ∧
    (seating handOverState = seating payingState ∨
      PolicyStep 1 2 (seating payingState) (seating handOverState)) :=
  ⟨by decide, by decide, seating_refines.2 _ _ _ reachable_payingState
    (Option.getD_of_ne_none (Option.ne_none_iff_isSome.2 (by decide)) _).symm⟩

/-- **The policy's invariant holds of the restaurant**, in every
reachable state and through hand-overs: every seat is a table, no table
seats two groups, and a group is queued only while every table is
taken. -/
theorem seating_policyInv (h : Reachable NUMTABLES nGroups s) :
    PolicyInv NUMTABLES nGroups (seating s) := by
  induction h with
  | init hi => rw [hi.seating]; exact PolicyInv.empty
  | step a hr hs ih =>
    rcases seating_step (seating_reachable hr).2 hs with e | hstep
    · rwa [e]
    · exact hstep.inv ih

theorem seating_policyInv_queuedState : PolicyInv 1 2 (seating queuedState) :=
  seating_policyInv reachable_queuedState

end Restaurant
