/-
A heap of objects with identity. Objects are numbered in the order of their
creation and an address is never used twice. The last value of a destroyed object
is kept, so that what it left behind can still be spoken of.
-/

import Mathlib.Data.Finset.Card

set_option autoImplicit false

universe u

structure ObjectHeap (τ : Type u) where
  next : Nat
  value : Nat → τ
  live : Finset Nat
  bounded : ∀ address, address ∈ live → address < next

namespace ObjectHeap

variable {τ : Type u}

/-- `unborn` is what an address not yet handed out reads as. -/
def empty (unborn : τ) : ObjectHeap τ :=
  { next := 0
    value := fun _ => unborn
    live := ∅
    bounded := by
      intro address member
      exact absurd member (Finset.notMem_empty address) }

def alloc (heap : ObjectHeap τ) (object : τ) : ObjectHeap τ :=
  { next := heap.next + 1
    value := fun address => if address = heap.next then object else heap.value address
    live := insert heap.next heap.live
    bounded := by
      intro address member
      rcases Finset.mem_insert.mp member with same | older
      · omega
      · have below := heap.bounded address older
        omega }

def modify (heap : ObjectHeap τ) (target : Nat) (change : τ → τ) : ObjectHeap τ :=
  { next := heap.next
    value := fun address =>
      if address = target then change (heap.value address) else heap.value address
    live := heap.live
    bounded := heap.bounded }

def free (heap : ObjectHeap τ) (target : Nat) : ObjectHeap τ :=
  { next := heap.next
    value := heap.value
    live := heap.live.erase target
    bounded := by
      intro address member
      exact heap.bounded address (Finset.mem_of_mem_erase member) }

section Fields

variable (heap : ObjectHeap τ)

@[simp]
theorem empty_value (unborn : τ) (address : Nat) : (empty unborn).value address = unborn := rfl

@[simp]
theorem alloc_next (object : τ) : (heap.alloc object).next = heap.next + 1 := rfl

@[simp]
theorem alloc_live (object : τ) : (heap.alloc object).live = insert heap.next heap.live := rfl

@[simp]
theorem alloc_value (object : τ) (address : Nat) :
    (heap.alloc object).value address =
      if address = heap.next then object else heap.value address := rfl

@[simp]
theorem modify_live (target : Nat) (change : τ → τ) :
    (heap.modify target change).live = heap.live := rfl

@[simp]
theorem modify_value (target address : Nat) (change : τ → τ) :
    (heap.modify target change).value address =
      if address = target then change (heap.value address) else heap.value address := rfl

@[simp]
theorem free_next (target : Nat) : (heap.free target).next = heap.next := rfl

@[simp]
theorem free_live (target : Nat) : (heap.free target).live = heap.live.erase target := rfl

@[simp]
theorem free_value (target address : Nat) :
    (heap.free target).value address = heap.value address := rfl

theorem next_notMem_live : heap.next ∉ heap.live := by
  intro member
  exact Nat.lt_irrefl heap.next (heap.bounded heap.next member)

theorem alloc_card (object : τ) : (heap.alloc object).live.card = heap.live.card + 1 :=
  Finset.card_insert_of_notMem heap.next_notMem_live

theorem free_card {target : Nat} (member : target ∈ heap.live) :
    (heap.free target).live.card + 1 = heap.live.card :=
  Finset.card_erase_add_one member

theorem ext {first second : ObjectHeap τ} (next : first.next = second.next)
    (value : first.value = second.value) (live : first.live = second.live) : first = second := by
  cases first with
  | mk firstNext firstValue firstLive firstBounded =>
      cases second with
      | mk secondNext secondValue secondLive secondBounded =>
          simp only at next value live
          subst next
          subst value
          subst live
          rfl

/-! ### What holds of every object -/

/-- The rule of a change: the object changed needs a proof, the others keep theirs. -/
theorem forall_modify (holds : Nat → τ → Prop) (target : Nat) (change : τ → τ)
    (own : holds target (change (heap.value target)))
    (others : ∀ address, address ≠ target → holds address (heap.value address)) :
    ∀ address, holds address ((heap.modify target change).value address) := by
  intro address
  rw [modify_value]
  by_cases same : address = target
  · rw [if_pos same, same]
    exact own
  · rw [if_neg same]
    exact others address same

theorem forall_alloc (holds : Nat → τ → Prop) (object : τ) (own : holds heap.next object)
    (others : ∀ address, address ≠ heap.next → holds address (heap.value address)) :
    ∀ address, holds address ((heap.alloc object).value address) := by
  intro address
  rw [alloc_value]
  by_cases same : address = heap.next
  · rw [if_pos same, same]
    exact own
  · rw [if_neg same]
    exact others address same

/-! ### Operations one after the other -/

@[simp]
theorem modify_modify (target : Nat) (first second : τ → τ) :
    (heap.modify target first).modify target second =
      heap.modify target (fun object => second (first object)) := by
  refine ext rfl ?_ rfl
  funext address
  by_cases same : address = target
  · simp only [modify_value, if_pos same]
  · simp only [modify_value, if_neg same]

theorem modify_const (target : Nat) (change : τ → τ) :
    heap.modify target (fun _ => change (heap.value target)) = heap.modify target change := by
  refine ext rfl ?_ rfl
  funext address
  by_cases same : address = target
  · simp only [modify_value, same]
  · simp only [modify_value, if_neg same]

theorem modify_same (target : Nat) (change : τ → τ)
    (same : change (heap.value target) = heap.value target) : heap.modify target change = heap := by
  refine ext rfl ?_ rfl
  funext address
  by_cases hit : address = target
  · subst hit
    rw [modify_value, if_pos rfl]
    exact same
  · rw [modify_value, if_neg hit]

@[simp]
theorem alloc_modify (object : τ) (change : τ → τ) :
    (heap.alloc object).modify heap.next change = heap.alloc (change object) := by
  refine ext rfl ?_ rfl
  funext address
  by_cases same : address = heap.next
  · simp only [modify_value, alloc_value, if_pos same]
  · simp only [modify_value, alloc_value, if_neg same]

theorem modify_congr (target : Nat) {first second : τ → τ}
    (same : first (heap.value target) = second (heap.value target)) :
    heap.modify target first = heap.modify target second := by
  refine ext rfl ?_ rfl
  funext address
  by_cases hit : address = target
  · subst hit
    simp only [modify_value, if_true]
    exact same
  · simp only [modify_value, if_neg hit]

theorem modify_comm {first second : Nat} (different : first ≠ second) (change other : τ → τ) :
    (heap.modify first change).modify second other =
      (heap.modify second other).modify first change := by
  refine ext rfl ?_ rfl
  funext address
  by_cases hitFirst : address = first
  · have missSecond : address ≠ second := fun same => different (hitFirst.symm.trans same)
    simp only [modify_value, if_pos hitFirst, if_neg missSecond]
  · simp only [modify_value, if_neg hitFirst]

theorem modify_free (target freed : Nat) (change : τ → τ) :
    (heap.modify target change).free freed = (heap.free freed).modify target change := rfl

theorem free_comm (first second : Nat) :
    (heap.free first).free second = (heap.free second).free first :=
  ext rfl rfl (Finset.erase_right_comm)

theorem alloc_free_live (object : τ) :
    ((heap.alloc object).free heap.next).live = heap.live := by
  rw [free_live, alloc_live]
  exact Finset.erase_insert heap.next_notMem_live

end Fields

end ObjectHeap
