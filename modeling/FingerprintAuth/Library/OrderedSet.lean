/-
Finite sets kept as strictly increasing lists, with the increasing order as the
order of iteration. Insertion and removal keep the order, so an iteration visits
each element once.
-/

import Mathlib.Data.List.Sort
import Mathlib.Order.Lattice

set_option autoImplicit false

universe u

structure OrderedSet (α : Type u) [LinearOrder α] where
  toList : List α
  increasing : toList.Pairwise (· < ·)

namespace OrderedSet

variable {α : Type u} [LinearOrder α]

instance : Membership α (OrderedSet α) where
  mem set item := item ∈ set.toList

instance (item : α) (set : OrderedSet α) : Decidable (item ∈ set) :=
  inferInstanceAs (Decidable (item ∈ set.toList))

def empty : OrderedSet α :=
  { toList := []
    increasing := List.Pairwise.nil }

def insertList (item : α) : List α → List α
  | [] => [item]
  | head :: tail =>
      if item < head then item :: head :: tail
      else if item = head then head :: tail
      else head :: insertList item tail

theorem mem_insertList (item other : α) (items : List α) :
    other ∈ insertList item items ↔ other = item ∨ other ∈ items := by
  induction items with
  | nil => simp only [insertList, List.mem_singleton, List.not_mem_nil, or_false]
  | cons head tail ih =>
      unfold insertList
      split
      · exact List.mem_cons
      split
      · rename_i same
        subst same
        rw [List.mem_cons, ← or_assoc, or_self]
      · rw [List.mem_cons, ih, List.mem_cons]
        exact or_left_comm

theorem insertList_increasing (item : α) (items : List α)
    (increasing : items.Pairwise (· < ·)) : (insertList item items).Pairwise (· < ·) := by
  induction items with
  | nil => exact List.pairwise_singleton _ item
  | cons head tail ih =>
      have headTail := List.pairwise_cons.mp increasing
      unfold insertList
      split
      · rename_i below
        refine List.pairwise_cons.mpr ⟨?_, increasing⟩
        intro other member
        rcases List.mem_cons.mp member with same | later
        · rw [same]
          exact below
        · exact lt_trans below (headTail.1 other later)
      split
      · exact increasing
      · rename_i notBelow different
        have above : head < item := lt_of_le_of_ne (not_lt.mp notBelow) (Ne.symm different)
        refine List.pairwise_cons.mpr ⟨?_, ih headTail.2⟩
        intro other member
        rcases (mem_insertList item other tail).mp member with same | later
        · rw [same]
          exact above
        · exact headTail.1 other later

def insert (item : α) (set : OrderedSet α) : OrderedSet α :=
  { toList := insertList item set.toList
    increasing := insertList_increasing item set.toList set.increasing }

def erase (set : OrderedSet α) (item : α) : OrderedSet α :=
  { toList := set.toList.erase item
    increasing := set.increasing.sublist List.erase_sublist }

theorem nodup (set : OrderedSet α) : set.toList.Nodup :=
  set.increasing.imp (fun below => ne_of_lt below)

@[simp]
theorem not_mem_empty (item : α) : item ∉ (empty : OrderedSet α) := List.not_mem_nil

@[simp]
theorem mem_insert {item other : α} {set : OrderedSet α} :
    other ∈ set.insert item ↔ other = item ∨ other ∈ set :=
  mem_insertList item other set.toList

@[simp]
theorem mem_erase {item other : α} {set : OrderedSet α} :
    other ∈ set.erase item ↔ other ≠ item ∧ other ∈ set :=
  set.nodup.mem_erase_iff

theorem ext_mem {first second : OrderedSet α} (same : ∀ item, item ∈ first ↔ item ∈ second) :
    first = second := by
  have sameList : first.toList = second.toList :=
    List.Pairwise.eq_of_mem_iff first.increasing second.increasing same
  cases first
  cases second
  cases sameList
  rfl

/-- An iteration visits each member once. -/
theorem count_of_mem {item : α} {set : OrderedSet α} (member : item ∈ set) :
    set.toList.count item = 1 := List.count_eq_one_of_mem set.nodup member

end OrderedSet
