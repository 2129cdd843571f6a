import Restaurant.Group
import Restaurant.Receptionist
import Restaurant.Waiter
/-!
# Restaurant — the interleaving semantics

`nGroups` groups, the receptionist, the waiter and the chef run
concurrently; a step of the system is an atomic step of one of them,
chosen freely. A `semDown` on a zero counter is not enabled, so a
blocked process simply has no step. `Reachable` is every state some
interleaving leads to from an initial one, `Final` the state where
every process has run its code to the end.
-/

namespace Restaurant

/-- The processes. -/
inductive Actor where
  | group (g : Nat)
  | receptionist
  | waiter
  | chef
  deriving DecidableEq, Repr

/-- One step of the system: the named process moves, if it can. -/
def step (NUMTABLES nGroups : Nat) (s : State) : Actor → Option State
  | .group g => if g < nGroups then groupStep s g else none
  | .receptionist => receptionistStep NUMTABLES nGroups s
  | .waiter => waiterStep nGroups s
  | .chef => chefStep nGroups s

/-- The initial semaphore values: `mutex` and both request-possible
permits at one, everything else at zero. -/
def initialSem : Sem → Nat
  | .mutex | .receptionistRequestPossible | .waiterRequestPossible => 1
  | _ => 0

/-- What the initializer leaves behind. The mailboxes, `foodOrder`,
`foodGroup` and the two actors' saved phases may hold anything. -/
structure Initial (s : State) : Prop where
  group : ∀ g, s.group g = .goToRestaurant
  groupStat : ∀ g, s.groupStat g = .GOING
  assignedTable : ∀ g, s.assignedTable g = -1
  groupsWaiting : s.groupsWaiting = 0
  sem : s.sem = initialSem
  receptionist : s.receptionist = .waitForGroup
  receptionistReqs : s.receptionistReqs = 0
  groupRecord : ∀ g, s.groupRecord g = .TOARRIVE
  waiter : s.waiter = .waitForClientOrChef
  waiterReqs : s.waiterReqs = 0
  chef : s.chef = .waitForOrder
  chefOrders : s.chefOrders = 0
  ghost : s.ghost = ⟨[], [], [], [], [], [], [], []⟩

/-- The states some interleaving reaches. -/
inductive Reachable (NUMTABLES nGroups : Nat) : State → Prop
  | init {s : State} : Initial s → Reachable NUMTABLES nGroups s
  | step {s s' : State} (a : Actor) :
      Reachable NUMTABLES nGroups s → step NUMTABLES nGroups s a = some s' →
      Reachable NUMTABLES nGroups s'

/-- Every process has run to its end: each group has saved `LEAVING` and
returned, the receptionist and the waiter have served `2 * nGroups`
requests and left their loops, and the chef has taken one order per
group. -/
def Final (nGroups : Nat) (s : State) : Prop :=
  (∀ g < nGroups, s.groupStat g = .LEAVING ∧ ∃ t, s.group g = .exited t) ∧
    s.receptionist = .waitForGroup ∧ s.receptionistReqs = 2 * nGroups ∧
    s.waiter = .waitForClientOrChef ∧ s.waiterReqs = 2 * nGroups ∧
    s.chef = .waitForOrder ∧ s.chefOrders = nGroups

/-- No process can move. -/
def Stuck (NUMTABLES nGroups : Nat) (s : State) : Prop :=
  ∀ a, step NUMTABLES nGroups s a = none

/-- Run a schedule, failing if some process named cannot move. -/
def run (NUMTABLES nGroups : Nat) : State → List Actor → Option State
  | s, [] => some s
  | s, a :: as => (step NUMTABLES nGroups s a).bind (run NUMTABLES nGroups · as)

theorem Reachable.run {NUMTABLES nGroups : Nat} {s s' : State} {as : List Actor}
    (hs : Reachable NUMTABLES nGroups s) (h : run NUMTABLES nGroups s as = some s') :
    Reachable NUMTABLES nGroups s' := by
  induction as generalizing s with
  | nil => simp only [Restaurant.run, Option.some.injEq] at h; exact h ▸ hs
  | cons a as ih =>
    simp only [Restaurant.run, Option.bind_eq_some] at h
    obtain ⟨t, ht, h⟩ := h
    exact ih (hs.step a ht) h

/-- A schedule that runs to its end reaches the state it ends in. -/
theorem Reachable.run_getD {NUMTABLES nGroups : Nat} {s : State} {as : List Actor}
    (hs : Reachable NUMTABLES nGroups s) (h : (Restaurant.run NUMTABLES nGroups s as).isSome) :
    Reachable NUMTABLES nGroups ((Restaurant.run NUMTABLES nGroups s as).getD s) := by
  obtain ⟨s', e⟩ := Option.isSome_iff_exists.1 h
  rw [e]
  exact hs.run e

/-- An initial state: everybody at the start of its code, both mailboxes
holding `{TABLEREQ, 0}`. -/
def initState : State where
  groupStat _ := .GOING
  receptionistStat := .WAIT_FOR_REQUEST
  waiterStat := .WAIT_FOR_REQUEST
  assignedTable _ := -1
  groupsWaiting := 0
  receptionistRequest := ⟨.TABLEREQ, 0⟩
  waiterRequest := ⟨.TABLEREQ, 0⟩
  foodOrder := 0
  foodGroup := 0
  sem := initialSem
  group _ := .goToRestaurant
  receptionist := .waitForGroup
  receptionistReqs := 0
  groupRecord _ := .TOARRIVE
  waiter := .waitForClientOrChef
  waiterReqs := 0
  chef := .waitForOrder
  chefOrders := 0
  ghost := ⟨[], [], [], [], [], [], [], []⟩

theorem initial_initState : Initial initState :=
  ⟨fun _ => rfl, fun _ => rfl, fun _ => rfl, rfl, rfl, rfl, rfl, fun _ => rfl, rfl, rfl, rfl, rfl,
    rfl⟩

end Restaurant
