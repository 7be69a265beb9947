/-
Threads that take locks in the order of their ranks.

The code of a thread is given by its critical sections. Branches and loops are left
open, and a thread runs one of the traces that they allow. Locks are taken exclusively
or shared, some of them again by the thread that holds them, and a shared lock may
give way to a writer that waits. A wait for the end of another thread's work is a lock
that the other thread holds meanwhile.
-/

import Mathlib.Data.Fintype.Basic
import Mathlib.Algebra.BigOperators.Group.Finset.Basic
import Mathlib.Algebra.Order.BigOperators.Group.Finset
import Mathlib.Data.Fintype.BigOperators
import Mathlib.Data.Set.Finite.Lemmas
import Mathlib.Tactic.Push

set_option autoImplicit false

namespace LockOrder

universe u v

variable {L : Type u}

inductive Mode where
  | exclusive
  | shared
deriving DecidableEq, Repr

structure Hold (L : Type u) where
  lock : L
  mode : Mode
deriving DecidableEq

inductive Action (L : Type u) where
  | acquire (hold : Hold L)
  | release (hold : Hold L)

structure Discipline (L : Type u) where
  rank : L → Nat
  /-- Whether a thread may take the lock exclusively while it holds it so. -/
  isRecursive : L → Bool

/-! ### Code -/

inductive Code (L : Type u) where
  | skip
  | locked (hold : Hold L) (body : Code L)
  | andThen (first second : Code L)
  | choose (body : Nat → Code L)
  | rounds (body : Code L)

namespace Code

def either (first second : Code L) : Code L :=
  choose fun
    | 0 => first
    | _ => second

def sequence : List (Code L) → Code L
  | [] => skip
  | first :: rest => andThen first (sequence rest)

inductive Trace : Code L → List (Action L) → Prop where
  | skip : Trace .skip []
  | locked {hold : Hold L} {body : Code L} {actions : List (Action L)}
      (inside : Trace body actions) :
      Trace (.locked hold body) (.acquire hold :: (actions ++ [.release hold]))
  | andThen {first second : Code L} {actions later : List (Action L)}
      (before : Trace first actions) (after : Trace second later) :
      Trace (.andThen first second) (actions ++ later)
  | choose {body : Nat → Code L} {actions : List (Action L)} (choice : Nat)
      (chosen : Trace (body choice) actions) : Trace (.choose body) actions
  | noRound {body : Code L} : Trace (.rounds body) []
  | round {body : Code L} {actions later : List (Action L)} (one : Trace body actions)
      (others : Trace (.rounds body) later) : Trace (.rounds body) (actions ++ later)

theorem Trace.left {first second : Code L} {actions : List (Action L)}
    (chosen : Trace first actions) : Trace (either first second) actions :=
  .choose 0 chosen

theorem Trace.right {first second : Code L} {actions : List (Action L)}
    (chosen : Trace second actions) : Trace (either first second) actions :=
  .choose 1 chosen

theorem exists_trace (code : Code L) : ∃ actions, code.Trace actions := by
  induction code with
  | skip => exact ⟨_, .skip⟩
  | locked hold body ih =>
      obtain ⟨actions, inside⟩ := ih
      exact ⟨_, .locked inside⟩
  | andThen first second ihFirst ihSecond =>
      obtain ⟨actions, before⟩ := ihFirst
      obtain ⟨later, after⟩ := ihSecond
      exact ⟨_, .andThen before after⟩
  | choose body ih =>
      obtain ⟨actions, chosen⟩ := ih 0
      exact ⟨_, .choose 0 chosen⟩
  | rounds body _ => exact ⟨_, .noRound⟩

end Code

/-! ### Order -/

namespace Discipline

variable (discipline : Discipline L)

def Reenters (held : List (Hold L)) (hold : Hold L) : Prop :=
  hold.mode = .exclusive ∧ discipline.isRecursive hold.lock = true ∧
    (⟨hold.lock, .exclusive⟩ : Hold L) ∈ held

def Admits (held : List (Hold L)) (hold : Hold L) : Prop :=
  discipline.Reenters held hold ∨
    ∀ other, other ∈ held → discipline.rank other.lock < discipline.rank hold.lock

/-- The code admits every lock it takes when it starts with `held`. -/
def Orders : List (Hold L) → Code L → Prop
  | _, .skip => True
  | held, .locked hold body => discipline.Admits held hold ∧ Orders (hold :: held) body
  | held, .andThen first second => Orders held first ∧ Orders held second
  | held, .choose body => ∀ choice, Orders held (body choice)
  | held, .rounds body => Orders held body

def OrdersTrace : List (Hold L) → List (Action L) → Prop
  | held, [] => held = []
  | held, .acquire hold :: rest => discipline.Admits held hold ∧ OrdersTrace (hold :: held) rest
  | held, .release hold :: rest => ∃ others, held = hold :: others ∧ OrdersTrace others rest

variable {discipline}

@[simp]
theorem orders_either {held : List (Hold L)} {first second : Code L} :
    discipline.Orders held (.either first second) ↔
      discipline.Orders held first ∧ discipline.Orders held second := by
  constructor
  · intro ordered
    exact ⟨ordered 0, ordered 1⟩
  · intro both choice
    cases choice with
    | zero => exact both.1
    | succ choice => exact both.2

theorem orders_sequence {held : List (Hold L)} {codes : List (Code L)}
    (each : ∀ code, code ∈ codes → discipline.Orders held code) :
    discipline.Orders held (.sequence codes) := by
  induction codes with
  | nil => trivial
  | cons code rest ih =>
      exact ⟨each code List.mem_cons_self, ih fun other member =>
        each other (List.mem_cons_of_mem code member)⟩

theorem ordersTrace_append {code : Code L} {actions : List (Action L)}
    (trace : code.Trace actions) {held : List (Hold L)} {later : List (Action L)}
    (ordered : discipline.Orders held code) (after : discipline.OrdersTrace held later) :
    discipline.OrdersTrace held (actions ++ later) := by
  induction trace generalizing held later with
  | skip => exact after
  | locked _ ih =>
      rw [List.cons_append, List.append_assoc]
      exact ⟨ordered.1, ih ordered.2 ⟨held, rfl, after⟩⟩
  | andThen _ _ ihFirst ihSecond =>
      rw [List.append_assoc]
      exact ihFirst ordered.1 (ihSecond ordered.2 after)
  | choose choice _ ih => exact ih (ordered choice) after
  | noRound => exact after
  | round _ _ ihOne ihOthers =>
      rw [List.append_assoc]
      exact ihOne ordered (ihOthers ordered after)

theorem ordersTrace_of_orders {code : Code L} {actions : List (Action L)}
    (trace : code.Trace actions) (ordered : discipline.Orders [] code) :
    discipline.OrdersTrace [] actions := by
  have whole : discipline.OrdersTrace [] (actions ++ []) :=
    ordersTrace_append trace ordered rfl
  rwa [List.append_nil] at whole

/-- The code may be entered with any locks of lower ranks held. -/
def OrdersAbove (discipline : Discipline L) (rank : Nat) (code : Code L) : Prop :=
  ∀ held, (∀ other, other ∈ held → discipline.rank other.lock < rank) →
    discipline.Orders held code

section Above

variable {rank : Nat}

theorem OrdersAbove.mono {lower : Nat} {code : Code L} (above : discipline.OrdersAbove rank code)
    (le : lower ≤ rank) : discipline.OrdersAbove lower code := by
  intro held below
  apply above
  intro other member
  exact Nat.lt_of_lt_of_le (below other member) le

theorem OrdersAbove.skip : discipline.OrdersAbove rank .skip := fun _ _ => trivial

theorem OrdersAbove.locked {hold : Hold L} {body : Code L} (le : rank ≤ discipline.rank hold.lock)
    (inside : ∀ held, (∀ other, other ∈ held → discipline.rank other.lock < rank) →
      discipline.Orders (hold :: held) body) :
    discipline.OrdersAbove rank (.locked hold body) := by
  intro held below
  refine ⟨Or.inr ?_, inside held below⟩
  intro other member
  exact Nat.lt_of_lt_of_le (below other member) le

theorem OrdersAbove.locked_above {hold : Hold L} {body : Code L}
    (le : rank ≤ discipline.rank hold.lock)
    (inside : discipline.OrdersAbove (discipline.rank hold.lock + 1) body) :
    discipline.OrdersAbove rank (.locked hold body) := by
  apply OrdersAbove.locked le
  intro held below
  apply inside
  intro other member
  rcases List.mem_cons.mp member with same | earlier
  · rw [same]
    exact Nat.lt_succ_self _
  · have less := below other earlier
    omega

theorem OrdersAbove.andThen {first second : Code L} (before : discipline.OrdersAbove rank first)
    (after : discipline.OrdersAbove rank second) :
    discipline.OrdersAbove rank (.andThen first second) :=
  fun held below => ⟨before held below, after held below⟩

theorem OrdersAbove.choose {body : Nat → Code L}
    (each : ∀ choice, discipline.OrdersAbove rank (body choice)) :
    discipline.OrdersAbove rank (.choose body) :=
  fun held below choice => each choice held below

theorem OrdersAbove.either {first second : Code L} (left : discipline.OrdersAbove rank first)
    (right : discipline.OrdersAbove rank second) :
    discipline.OrdersAbove rank (.either first second) :=
  fun held below => orders_either.mpr ⟨left held below, right held below⟩

theorem OrdersAbove.rounds {body : Code L} (each : discipline.OrdersAbove rank body) :
    discipline.OrdersAbove rank (.rounds body) :=
  fun held below => each held below

end Above

end Discipline

/-! ### Threads -/

structure Thread (L : Type u) where
  held : List (Hold L)
  todo : List (Action L)

namespace Thread

def BlocksItself (discipline : Discipline L) (held : List (Hold L)) (hold : Hold L) : Prop :=
  ¬discipline.Reenters held hold ∧ ∃ own, own ∈ held ∧ own.lock = hold.lock

def WaitsFor (thread : Thread L) (hold : Hold L) : Prop :=
  ∃ rest, thread.todo = .acquire hold :: rest

def Blocks (other : Thread L) (hold : Hold L) : Prop :=
  ∃ taken, taken ∈ other.held ∧ taken.lock = hold.lock ∧
    (taken.mode = .exclusive ∨ hold.mode = .exclusive)

end Thread

private def awaitedRank (discipline : Discipline L) : List (Action L) → Nat
  | .acquire hold :: _ => discipline.rank hold.lock
  | _ => 0

private theorem awaitedRank_eq {discipline : Discipline L} {thread : Thread L} {hold : Hold L}
    (waits : thread.WaitsFor hold) :
    awaitedRank discipline thread.todo = discipline.rank hold.lock := by
  obtain ⟨rest, next⟩ := waits
  rw [next]
  rfl

section Systems

variable {ι : Type v} [DecidableEq ι]

/-- With `preferWriters` a reader gives way to a writer that waits. -/
structure Available (discipline : Discipline L) (preferWriters : Bool) (system : ι → Thread L)
    (i : ι) (hold : Hold L) : Prop where
  ownHolds : ¬Thread.BlocksItself discipline (system i).held hold
  otherHolds : ∀ j, j ≠ i → ¬(system j).Blocks hold
  writers : preferWriters = true → hold.mode = .shared →
    ∀ j, j ≠ i → ¬(system j).WaitsFor ⟨hold.lock, .exclusive⟩

inductive Step (discipline : Discipline L) (preferWriters : Bool) (system : ι → Thread L) :
    (ι → Thread L) → Prop where
  | acquire (i : ι) (hold : Hold L) (rest : List (Action L))
      (next : (system i).todo = .acquire hold :: rest)
      (available : Available discipline preferWriters system i hold) :
      Step discipline preferWriters system
        (Function.update system i ⟨hold :: (system i).held, rest⟩)
  | release (i : ι) (hold : Hold L) (others : List (Hold L)) (rest : List (Action L))
      (next : (system i).todo = .release hold :: rest)
      (newest : (system i).held = hold :: others) :
      Step discipline preferWriters system (Function.update system i ⟨others, rest⟩)

inductive Reaches (discipline : Discipline L) (preferWriters : Bool) (start : ι → Thread L) :
    (ι → Thread L) → Prop where
  | here : Reaches discipline preferWriters start start
  | step {system after : ι → Thread L} (before : Reaches discipline preferWriters start system)
      (one : Step discipline preferWriters system after) :
      Reaches discipline preferWriters start after

def Finished (system : ι → Thread L) : Prop := ∀ i, (system i).todo = []

/-- No thread can go on, and some thread has not finished. -/
def Deadlocked (discipline : Discipline L) (preferWriters : Bool) (system : ι → Thread L) : Prop :=
  (∀ after, ¬Step discipline preferWriters system after) ∧ ¬Finished system

variable {discipline : Discipline L} {preferWriters : Bool}

/-! ### Progress -/

structure Orderly (discipline : Discipline L) (system : ι → Thread L) : Prop where
  ordered : ∀ i, discipline.OrdersTrace (system i).held (system i).todo
  apart : ∀ i j, i ≠ j → ∀ own, own ∈ (system i).held → ¬(system j).Blocks own

theorem Orderly.step {system after : ι → Thread L} (orderly : Orderly discipline system)
    (one : Step discipline preferWriters system after) : Orderly discipline after := by
  cases one with
  | acquire i hold rest next available =>
      have mine := orderly.ordered i
      rw [next] at mine
      constructor
      · intro j
        by_cases same : j = i
        · subst same
          rw [Function.update_self]
          exact mine.2
        · rw [Function.update_of_ne same]
          exact orderly.ordered j
      · intro j k different own member blocked
        obtain ⟨taken, takenMember, sameLock, conflict⟩ := blocked
        by_cases first : j = i
        · subst first
          rw [Function.update_self] at member
          rw [Function.update_of_ne (Ne.symm different)] at takenMember
          rcases List.mem_cons.mp member with new | old
          · subst new
            exact available.otherHolds k (Ne.symm different) ⟨taken, takenMember, sameLock, conflict⟩
          · exact orderly.apart j k different own old ⟨taken, takenMember, sameLock, conflict⟩
        · rw [Function.update_of_ne first] at member
          by_cases second : k = i
          · subst second
            rw [Function.update_self] at takenMember
            rcases List.mem_cons.mp takenMember with new | old
            · subst new
              exact available.otherHolds j first ⟨own, member, sameLock.symm, conflict.symm⟩
            · exact orderly.apart j k different own member ⟨taken, old, sameLock, conflict⟩
          · rw [Function.update_of_ne second] at takenMember
            exact orderly.apart j k different own member ⟨taken, takenMember, sameLock, conflict⟩
  | release i hold others rest next newest =>
      have mine := orderly.ordered i
      rw [next, newest] at mine
      obtain ⟨_, split, later⟩ := mine
      cases split
      have kept : ∀ j own, own ∈ (Function.update system i ⟨others, rest⟩ j).held →
          own ∈ (system j).held := by
        intro j own member
        by_cases same : j = i
        · subst same
          rw [Function.update_self] at member
          rw [newest]
          exact List.mem_cons_of_mem hold member
        · rwa [Function.update_of_ne same] at member
      constructor
      · intro j
        by_cases same : j = i
        · subst same
          rw [Function.update_self]
          exact later
        · rw [Function.update_of_ne same]
          exact orderly.ordered j
      · intro j k different own member blocked
        obtain ⟨taken, takenMember, conflict⟩ := blocked
        exact orderly.apart j k different own (kept j own member)
          ⟨taken, kept k taken takenMember, conflict⟩

theorem Orderly.reaches {start finish : ι → Thread L} (orderly : Orderly discipline start)
    (reached : Reaches discipline preferWriters start finish) : Orderly discipline finish := by
  induction reached with
  | here => exact orderly
  | step _ one ih => exact ih.step one

section Stuck

variable {system : ι → Thread L} (orderly : Orderly discipline system)
  (stuck : ∀ after, ¬Step discipline preferWriters system after)

include orderly stuck

private theorem waits_of_stuck (i : ι) (unfinished : (system i).todo ≠ []) :
    ∃ hold, (system i).WaitsFor hold ∧ discipline.Admits (system i).held hold := by
  have mine := orderly.ordered i
  cases next : (system i).todo with
  | nil => exact absurd next unfinished
  | cons action rest =>
      rw [next] at mine
      cases action with
      | acquire hold => exact ⟨hold, ⟨rest, next⟩, mine.1⟩
      | release hold =>
          obtain ⟨others, newest, _⟩ := mine
          exact absurd (Step.release i hold others rest next newest) (stuck _)

omit orderly in
private theorem not_available (i : ι) (hold : Hold L) (waits : (system i).WaitsFor hold) :
    ¬Available discipline preferWriters system i hold := by
  intro available
  obtain ⟨rest, next⟩ := waits
  exact stuck _ (Step.acquire i hold rest next available)

/-- Whoever holds a lock waits for one of a higher rank. -/
private theorem holder_waits (j : ι) (taken : Hold L) (member : taken ∈ (system j).held) :
    (system j).todo ≠ [] ∧ ∀ hold, (system j).WaitsFor hold →
      discipline.Admits (system j).held hold →
        discipline.rank taken.lock < discipline.rank hold.lock := by
  constructor
  · intro finished
    have mine := orderly.ordered j
    rw [finished] at mine
    change (system j).held = [] at mine
    rw [mine] at member
    cases member
  · intro hold waits admitted
    rcases admitted with reenters | higher
    · -- nothing can keep a thread from a lock that it holds already
      apply absurd _ (not_available stuck j hold waits)
      obtain ⟨exclusive, recursive, held⟩ := reenters
      refine ⟨?_, ?_, ?_⟩
      · intro blocks
        exact blocks.1 ⟨exclusive, recursive, held⟩
      · intro k different blocked
        obtain ⟨other, otherMember, sameLock, _⟩ := blocked
        exact orderly.apart j k (Ne.symm different) _ held
          ⟨other, otherMember, sameLock, Or.inr rfl⟩
      · intro _ shared
        rw [exclusive] at shared
        cases shared
    · exact higher taken member

omit orderly in
private theorem blocked_by (i : ι) (hold : Hold L) (waits : (system i).WaitsFor hold)
    (admitted : discipline.Admits (system i).held hold) :
    (∃ j, (system j).Blocks hold) ∨
      (hold.mode = .shared ∧ ∃ j, (system j).WaitsFor ⟨hold.lock, .exclusive⟩) := by
  have refused := not_available stuck i hold waits
  by_contra neither
  push Not at neither
  obtain ⟨unblocked, unwritten⟩ := neither
  apply refused
  refine ⟨?_, fun j _ => unblocked j, fun _ shared j _ => unwritten shared j⟩
  intro blocks
  obtain ⟨notAgain, own, member, same⟩ := blocks
  rcases admitted with reenters | higher
  · exact notAgain reenters
  · have lower := higher own member
    rw [same] at lower
    exact absurd lower (Nat.lt_irrefl _)

theorem Orderly.finished_of_stuck [Finite ι] : Finished system := by
  by_contra unfinished
  have some_ : {i | (system i).todo ≠ []}.Nonempty := by
    unfold Finished at unfinished
    push Not at unfinished
    exact unfinished
  -- the thread that waits for the highest lock of all is kept waiting by a higher one
  obtain ⟨i, more, highest⟩ := Set.exists_max_image {i | (system i).todo ≠ []}
    (fun i => awaitedRank discipline (system i).todo) (Set.toFinite _) some_
  obtain ⟨hold, waits, admitted⟩ := waits_of_stuck orderly stuck i more
  have unblocked : ∀ other : Hold L, other.lock = hold.lock → ∀ j, ¬(system j).Blocks other := by
    intro other sameLock j blocked
    obtain ⟨taken, member, same, _⟩ := blocked
    obtain ⟨moreThere, higher⟩ := holder_waits orderly stuck j taken member
    obtain ⟨next, waitsThere, admittedThere⟩ := waits_of_stuck orderly stuck j moreThere
    have above := higher next waitsThere admittedThere
    have below := highest j moreThere
    rw [awaitedRank_eq waits, awaitedRank_eq waitsThere] at below
    rw [same, sameLock] at above
    omega
  rcases blocked_by stuck i hold waits admitted with ⟨j, blocked⟩ | ⟨_, j, writes⟩
  · exact unblocked hold rfl j blocked
  · -- a writer that waits is kept waiting by a holder
    have moreThere : (system j).todo ≠ [] := by
      obtain ⟨rest, next⟩ := writes
      rw [next]
      exact List.cons_ne_nil _ _
    obtain ⟨next, waitsThere, admittedThere⟩ := waits_of_stuck orderly stuck j moreThere
    have same : next = ⟨hold.lock, .exclusive⟩ := by
      obtain ⟨rest, first⟩ := writes
      obtain ⟨later, second⟩ := waitsThere
      rw [first] at second
      cases second
      rfl
    rw [same] at waitsThere admittedThere
    rcases blocked_by stuck j _ waitsThere admittedThere with ⟨k, blocked⟩ | ⟨shared, _⟩
    · exact unblocked ⟨hold.lock, .exclusive⟩ rfl k blocked
    · cases shared

end Stuck

theorem Orderly.not_deadlocked [Finite ι] {start finish : ι → Thread L}
    (orderly : Orderly discipline start)
    (reached : Reaches discipline preferWriters start finish) :
    ¬Deadlocked discipline preferWriters finish := by
  intro deadlocked
  exact deadlocked.2 ((orderly.reaches reached).finished_of_stuck deadlocked.1)

/-! ### Doom -/

def SelfBlocking (discipline : Discipline L) : List (Hold L) → List (Action L) → Prop
  | _, [] => False
  | held, .acquire hold :: rest =>
      Thread.BlocksItself discipline held hold ∨ SelfBlocking discipline (hold :: held) rest
  | held, .release _ :: rest => SelfBlocking discipline held.tail rest

omit [DecidableEq ι] in
theorem selfBlocking_append_left {held : List (Hold L)} {actions : List (Action L)}
    (blocks : SelfBlocking discipline held actions) (later : List (Action L)) :
    SelfBlocking discipline held (actions ++ later) := by
  induction actions generalizing held with
  | nil => cases blocks
  | cons action rest ih =>
      cases action with
      | acquire hold => exact blocks.imp id ih
      | release hold => exact ih blocks

omit [DecidableEq ι] in
theorem selfBlocking_append_right {code : Code L} {actions : List (Action L)}
    (trace : code.Trace actions) {held : List (Hold L)} {later : List (Action L)}
    (blocks : SelfBlocking discipline held later) :
    SelfBlocking discipline held (actions ++ later) := by
  induction trace generalizing held later with
  | skip => exact blocks
  | locked _ ih =>
      rw [List.cons_append, List.append_assoc]
      exact Or.inr (ih blocks)
  | andThen _ _ ihFirst ihSecond =>
      rw [List.append_assoc]
      exact ihFirst (ihSecond blocks)
  | choose _ _ ih => exact ih blocks
  | noRound => exact blocks
  | round _ _ ihOne ihOthers =>
      rw [List.append_assoc]
      exact ihOne (ihOthers blocks)

/-- Some run of the code, entered with `held`, takes a lock that it cannot get past. -/
def CanBlockItself (discipline : Discipline L) (held : List (Hold L)) (code : Code L) : Prop :=
  ∃ actions, code.Trace actions ∧ SelfBlocking discipline held actions

namespace CanBlockItself

variable {held : List (Hold L)} {first second : Code L}

theorem here {hold : Hold L} {body : Code L}
    (blocks : Thread.BlocksItself discipline held hold) :
    CanBlockItself discipline held (.locked hold body) := by
  obtain ⟨actions, inside⟩ := body.exists_trace
  exact ⟨_, .locked inside, Or.inl blocks⟩

theorem inside {hold : Hold L} {body : Code L}
    (can : CanBlockItself discipline (hold :: held) body) :
    CanBlockItself discipline held (.locked hold body) := by
  obtain ⟨actions, trace, blocks⟩ := can
  exact ⟨_, .locked trace, Or.inr (selfBlocking_append_left blocks _)⟩

theorem inFirst (can : CanBlockItself discipline held first) :
    CanBlockItself discipline held (.andThen first second) := by
  obtain ⟨actions, trace, blocks⟩ := can
  obtain ⟨later, after⟩ := second.exists_trace
  exact ⟨_, .andThen trace after, selfBlocking_append_left blocks later⟩

theorem inSecond (can : CanBlockItself discipline held second) :
    CanBlockItself discipline held (.andThen first second) := by
  obtain ⟨later, trace, blocks⟩ := can
  obtain ⟨actions, before⟩ := first.exists_trace
  exact ⟨_, .andThen before trace, selfBlocking_append_right before blocks⟩

theorem right (can : CanBlockItself discipline held second) :
    CanBlockItself discipline held (.either first second) := by
  obtain ⟨actions, trace, blocks⟩ := can
  exact ⟨actions, trace.right, blocks⟩

theorem sequence {code : Code L} {codes : List (Code L)} (member : code ∈ codes)
    (can : CanBlockItself discipline held code) :
    CanBlockItself discipline held (.sequence codes) := by
  induction codes with
  | nil => cases member
  | cons head rest ih =>
      rcases List.mem_cons.mp member with same | later
      · subst same
        exact can.inFirst
      · exact (ih later).inSecond

end CanBlockItself

theorem selfBlocking_step {system after : ι → Thread L} (i : ι)
    (doomed : SelfBlocking discipline (system i).held (system i).todo)
    (one : Step discipline preferWriters system after) :
    SelfBlocking discipline (after i).held (after i).todo := by
  cases one with
  | acquire j hold rest next available =>
      by_cases same : i = j
      · subst same
        rw [Function.update_self]
        rw [next] at doomed
        rcases doomed with blocks | later
        · exact absurd blocks available.ownHolds
        · exact later
      · rwa [Function.update_of_ne same]
  | release j hold others rest next newest =>
      by_cases same : i = j
      · subst same
        rw [Function.update_self]
        rw [next, newest] at doomed
        exact doomed
      · rwa [Function.update_of_ne same]

/-- Each step leaves less to do, so every run comes to an end. -/
theorem exists_stuck [Fintype ι] (start : ι → Thread L) :
    ∃ finish, Reaches discipline preferWriters start finish ∧
      ∀ after, ¬Step discipline preferWriters finish after := by
  have shorter : ∀ (system : ι → Thread L) (i : ι) (held : List (Hold L)) (action : Action L)
      (rest : List (Action L)), (system i).todo = action :: rest →
        ∑ j, (Function.update system i ⟨held, rest⟩ j).todo.length <
          ∑ j, (system j).todo.length := by
    intro system i held action rest next
    apply Finset.sum_lt_sum
    · intro j _
      by_cases same : j = i
      · subst same
        rw [Function.update_self, next]
        exact Nat.le_succ _
      · rw [Function.update_of_ne same]
    · refine ⟨i, Finset.mem_univ i, ?_⟩
      rw [Function.update_self, next]
      exact Nat.lt_succ_self _
  have reached : ∀ (count : Nat) (system : ι → Thread L),
      Reaches discipline preferWriters start system → ∑ j, (system j).todo.length ≤ count →
        ∃ finish, Reaches discipline preferWriters start finish ∧
          ∀ after, ¬Step discipline preferWriters finish after := by
    intro count
    induction count with
    | zero =>
        intro system before none_
        refine ⟨system, before, ?_⟩
        intro after one
        cases one with
        | acquire i hold rest next _ =>
            have less := shorter system i (hold :: (system i).held) _ rest next
            omega
        | release i hold others rest next _ =>
            have less := shorter system i others _ rest next
            omega
    | succ count ih =>
        intro system before bounded
        by_cases more : ∃ after, Step discipline preferWriters system after
        · obtain ⟨after, one⟩ := more
          refine ih after (.step before one) ?_
          cases one with
          | acquire i hold rest next _ =>
              have less := shorter system i (hold :: (system i).held) _ rest next
              omega
          | release i hold others rest next _ =>
              have less := shorter system i others _ rest next
              omega
        · push Not at more
          exact ⟨system, before, more⟩
  exact reached _ start .here le_rfl

theorem exists_deadlocked [Fintype ι] {start : ι → Thread L} (i : ι)
    (doomed : SelfBlocking discipline (start i).held (start i).todo) :
    ∃ finish, Reaches discipline preferWriters start finish ∧
      Deadlocked discipline preferWriters finish := by
  obtain ⟨finish, reached, stuck⟩ : ∃ finish, Reaches discipline preferWriters start finish ∧
      ∀ after, ¬Step discipline preferWriters finish after := exists_stuck start
  refine ⟨finish, reached, stuck, ?_⟩
  have still : SelfBlocking discipline (finish i).held (finish i).todo := by
    clear stuck
    induction reached with
    | here => exact doomed
    | step _ one ih => exact selfBlocking_step i ih one
  intro finished
  rw [finished i] at still
  exact still

end Systems

end LockOrder
