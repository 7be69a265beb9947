/-
A one-shot timer service with its own callback thread.

Registering hands out a fresh id. A registered timer may be dispatched once; from
then on its callback is in progress, and cancelling the registration no longer
stops it. How far a callback has come is left to the client as `φ`.
-/

set_option autoImplicit false

universe u

/-- `idle` covers the ids never handed out, those cancelled and those whose
callback has returned. -/
inductive TimerStatus (φ : Type u) where
  | idle
  | registered
  | dispatched (progress : φ)
deriving DecidableEq, Repr

namespace TimerStatus

variable {φ : Type u}

def cancel : TimerStatus φ → TimerStatus φ
  | .registered => .idle
  | status => status

def fire (progress : φ) : TimerStatus φ → TimerStatus φ
  | .registered => .dispatched progress
  | status => status

def advance (progress : φ) : TimerStatus φ → TimerStatus φ
  | .dispatched _ => .dispatched progress
  | status => status

def retire : TimerStatus φ → TimerStatus φ
  | .dispatched _ => .idle
  | status => status

def running (accepts : φ → Bool) : TimerStatus φ → Bool
  | .dispatched progress => accepts progress
  | _ => false

@[simp]
theorem running_cancel (accepts : φ → Bool) (status : TimerStatus φ) :
    status.cancel.running accepts = status.running accepts := by
  cases status <;> rfl

@[simp]
theorem running_retire (accepts : φ → Bool) (status : TimerStatus φ) :
    status.retire.running accepts = false := by
  cases status <;> rfl

theorem registered_of_retire {status : TimerStatus φ} (registered : status.retire = .registered) :
    status = .registered := by
  cases status with
  | idle => exact registered
  | registered => rfl
  | dispatched progress => cases registered

theorem registered_of_advance {status : TimerStatus φ} {progress : φ}
    (registered : status.advance progress = .registered) : status = .registered := by
  cases status with
  | idle => exact registered
  | registered => rfl
  | dispatched _ => cases registered

@[simp]
theorem cancel_ne_registered (status : TimerStatus φ) : status.cancel ≠ .registered := by
  cases status <;> simp [cancel]

end TimerStatus

structure OneShotTimer (φ : Type u) where
  nextId : Nat
  status : Nat → TimerStatus φ
  fresh : ∀ id, nextId ≤ id → status id = .idle

namespace OneShotTimer

variable {φ : Type u}

/-- Ids start at one, so that zero names no timer. -/
def new : OneShotTimer φ :=
  { nextId := 1
    status := fun _ => .idle
    fresh := fun _ _ => rfl }

def register (timer : OneShotTimer φ) : OneShotTimer φ :=
  { nextId := timer.nextId + 1
    status := fun id => if id = timer.nextId then .registered else timer.status id
    fresh := by
      intro id above
      have different : id ≠ timer.nextId := by omega
      simp only [if_neg different]
      exact timer.fresh id (by omega) }

/-- Change the status of one id. Ids not handed out yet stay idle. -/
def modify (timer : OneShotTimer φ) (target : Nat) (change : TimerStatus φ → TimerStatus φ)
    (keepsIdle : change .idle = .idle) : OneShotTimer φ :=
  { nextId := timer.nextId
    status := fun id => if id = target then change (timer.status id) else timer.status id
    fresh := by
      intro id above
      simp only [timer.fresh id above, keepsIdle, ite_self] }

def unregister (timer : OneShotTimer φ) (id : Nat) : OneShotTimer φ :=
  timer.modify id TimerStatus.cancel rfl

def dispatch (timer : OneShotTimer φ) (id : Nat) (progress : φ) : OneShotTimer φ :=
  timer.modify id (TimerStatus.fire progress) rfl

def advance (timer : OneShotTimer φ) (id : Nat) (progress : φ) : OneShotTimer φ :=
  timer.modify id (TimerStatus.advance progress) rfl

def retire (timer : OneShotTimer φ) (id : Nat) : OneShotTimer φ :=
  timer.modify id TimerStatus.retire rfl

def shutdown (timer : OneShotTimer φ) : OneShotTimer φ :=
  { nextId := timer.nextId
    status := fun id => (timer.status id).cancel
    fresh := by
      intro id above
      rw [timer.fresh id above]
      rfl }

def anyRunning (timer : OneShotTimer φ) (accepts : φ → Bool) : Bool :=
  (List.range timer.nextId).any fun id => (timer.status id).running accepts

section Status

variable (timer : OneShotTimer φ)

@[simp]
theorem register_status (id : Nat) :
    timer.register.status id = if id = timer.nextId then .registered else timer.status id := rfl

@[simp]
theorem unregister_status (target id : Nat) :
    (timer.unregister target).status id =
      if id = target then (timer.status id).cancel else timer.status id := rfl

@[simp]
theorem unregister_nextId (target : Nat) : (timer.unregister target).nextId = timer.nextId := rfl

@[simp]
theorem dispatch_status (target id : Nat) (progress : φ) :
    (timer.dispatch target progress).status id =
      if id = target then (timer.status id).fire progress else timer.status id := rfl

@[simp]
theorem advance_status (target id : Nat) (progress : φ) :
    (timer.advance target progress).status id =
      if id = target then (timer.status id).advance progress else timer.status id := rfl

@[simp]
theorem retire_status (target id : Nat) :
    (timer.retire target).status id =
      if id = target then (timer.status id).retire else timer.status id := rfl

theorem running_of_retire {target id : Nat} {accepts : φ → Bool}
    (running : ((timer.retire target).status id).running accepts = true) :
    (timer.status id).running accepts = true := by
  rw [retire_status] at running
  split at running
  · rw [TimerStatus.running_retire] at running
    cases running
  · exact running

theorem registered_of_retire {target id : Nat}
    (registered : (timer.retire target).status id = .registered) :
    timer.status id = .registered := by
  rw [retire_status] at registered
  split at registered
  · exact TimerStatus.registered_of_retire registered
  · exact registered

theorem registered_of_advance {target id : Nat} {progress : φ}
    (registered : (timer.advance target progress).status id = .registered) :
    timer.status id = .registered := by
  rw [advance_status] at registered
  split at registered
  · exact TimerStatus.registered_of_advance registered
  · exact registered

@[simp]
theorem shutdown_status (id : Nat) : timer.shutdown.status id = (timer.status id).cancel := rfl

/-- A handed-out id is never handed out again. -/
theorem lt_nextId_of_ne_idle (id : Nat) (used : timer.status id ≠ .idle) : id < timer.nextId := by
  by_cases below : id < timer.nextId
  · exact below
  · exact absurd (timer.fresh id (Nat.le_of_not_lt below)) used

theorem lt_nextId_of_running {accepts : φ → Bool} {id : Nat}
    (running : (timer.status id).running accepts = true) : id < timer.nextId := by
  apply timer.lt_nextId_of_ne_idle
  intro idle
  rw [idle] at running
  cases running

theorem anyRunning_iff (accepts : φ → Bool) :
    timer.anyRunning accepts = true ↔ ∃ id, (timer.status id).running accepts = true := by
  unfold anyRunning
  rw [List.any_eq_true]
  constructor
  · rintro ⟨id, _, runs⟩
    exact ⟨id, runs⟩
  · rintro ⟨id, runs⟩
    exact ⟨id, List.mem_range.mpr (timer.lt_nextId_of_running runs), runs⟩

end Status

/-! ### Operations one after the other -/

private theorem ext_status {first second : OneShotTimer φ} (next : first.nextId = second.nextId)
    (status : ∀ id, first.status id = second.status id) : first = second := by
  obtain ⟨nextId, statuses, fresh⟩ := first
  obtain ⟨nextId', statuses', fresh'⟩ := second
  simp only at next status
  subst next
  obtain rfl : statuses = statuses' := funext status
  rfl

theorem dispatch_same (timer : OneShotTimer φ) (target : Nat) (progress : φ)
    (other : timer.status target ≠ .registered) : timer.dispatch target progress = timer := by
  refine ext_status rfl ?_
  intro id
  rw [dispatch_status]
  by_cases hit : id = target
  · rw [if_pos hit, hit]
    cases status : timer.status target with
    | idle => rfl
    | registered => exact absurd status other
    | dispatched progress => rfl
  · rw [if_neg hit]

theorem retire_same (timer : OneShotTimer φ) (target : Nat)
    (still : (timer.status target).running (fun _ => true) = false) :
    timer.retire target = timer := by
  refine ext_status rfl ?_
  intro id
  rw [retire_status]
  by_cases hit : id = target
  · rw [if_pos hit, hit]
    cases status : timer.status target with
    | idle => rfl
    | registered => rfl
    | dispatched progress =>
        rw [status] at still
        cases still
  · rw [if_neg hit]

theorem unregister_advance (timer : OneShotTimer φ) (cancelled target : Nat) (progress : φ) :
    (timer.unregister cancelled).advance target progress =
      (timer.advance target progress).unregister cancelled := by
  refine ext_status rfl ?_
  intro id
  simp only [advance_status, unregister_status]
  split <;> split <;> cases timer.status id <;> rfl

theorem unregister_retire (timer : OneShotTimer φ) (cancelled target : Nat) :
    (timer.unregister cancelled).retire target = (timer.retire target).unregister cancelled := by
  refine ext_status rfl ?_
  intro id
  simp only [retire_status, unregister_status]
  split <;> split <;> cases timer.status id <;> rfl

theorem unregister_dispatch (timer : OneShotTimer φ) (cancelled target : Nat) (progress : φ)
    (spared : (timer.unregister cancelled).status target = .registered) :
    (timer.unregister cancelled).dispatch target progress =
      (timer.dispatch target progress).unregister cancelled := by
  have different : target ≠ cancelled := by
    intro same
    rw [unregister_status, if_pos same] at spared
    exact TimerStatus.cancel_ne_registered _ spared
  refine ext_status rfl ?_
  intro id
  simp only [dispatch_status, unregister_status]
  by_cases hit : id = target
  · rw [if_pos hit, if_pos hit, if_neg (by rw [hit]; exact different),
      if_neg (by rw [hit]; exact different)]
  · rw [if_neg hit, if_neg hit]

end OneShotTimer
