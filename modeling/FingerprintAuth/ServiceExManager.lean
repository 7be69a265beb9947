/-
The extension library that holds the illumination task's code. It is opened at the
first request and, in this version of the service, never closed again.
-/

import FingerprintAuth.SaCommand

set_option autoImplicit false

namespace FingerprintAuth

structure ServiceExManager where
  isOpened : Bool := false
  /-- Whether `handle_` points to an opened library. -/
  handle : Bool := false
deriving DecidableEq, Repr

/-- How the library answers a request for a new task. `setupThrows` is a constructor
that subscribes to the screen events and then fails to start its timer; the
exception is turned into a null pointer. -/
inductive TaskFactory where
  | noSymbol
  | outOfMemory
  | setupThrows
  | made
deriving DecidableEq, Repr

namespace ServiceExManager

def acquire (manager : ServiceExManager) (dlopen : Bool) : ServiceExManager × ResultCode :=
  if manager.isOpened = false then
    if dlopen = false then ({ manager with handle := false }, .generalError)
    else ({ isOpened := true, handle := true }, .success)
  else (manager, .success)

def Consistent (manager : ServiceExManager) : Prop := manager.isOpened = manager.handle

theorem acquire_consistent (manager : ServiceExManager) (dlopen : Bool)
    (consistent : manager.Consistent) : (manager.acquire dlopen).1.Consistent := by
  unfold acquire
  cases opened : manager.isOpened with
  | true =>
      rw [if_neg (by simp)]
      exact consistent
  | false =>
      rw [if_pos rfl]
      cases dlopen with
      | true => rfl
      | false => rfl

/-- The library can be used exactly when it is open or opens now, and it has a handle from
then on. -/
theorem acquire_success_iff (manager : ServiceExManager) (dlopen : Bool) :
    (manager.acquire dlopen).2 = .success ↔ (manager.isOpened || dlopen) = true := by
  unfold acquire
  cases manager.isOpened <;> cases dlopen <;> simp

theorem acquire_handle (manager : ServiceExManager) (dlopen : Bool)
    (consistent : manager.Consistent) (succeeded : (manager.acquire dlopen).2 = .success) :
    (manager.acquire dlopen).1.handle = true := by
  unfold acquire at succeeded ⊢
  cases opened : manager.isOpened with
  | true =>
      rw [if_neg (by simp)]
      exact consistent.symm.trans opened
  | false =>
      rw [opened] at succeeded
      rw [if_pos rfl] at succeeded ⊢
      cases dlopen with
      | true => rfl
      | false => cases succeeded

theorem acquire_isOpened (manager : ServiceExManager) (dlopen : Bool) :
    (manager.acquire dlopen).1.isOpened = (manager.isOpened || dlopen) := by
  unfold acquire
  cases opened : manager.isOpened with
  | true => exact opened
  | false => cases dlopen <;> rfl

theorem acquire_result (manager : ServiceExManager) (dlopen : Bool) :
    (manager.acquire dlopen).2 = .success ∨ (manager.acquire dlopen).2 = .generalError := by
  unfold acquire
  cases manager.isOpened <;> cases dlopen <;> simp

end ServiceExManager

end FingerprintAuth
