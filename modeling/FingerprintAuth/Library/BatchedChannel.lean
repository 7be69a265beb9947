/-
A channel that keeps messages back until they are sent together.

The receiver knows `told`; the sender has queued `waiting` since it last sent. What
the receiver will know after the next sending is `owed`: queueing a message applies
it there at once, and sending changes nothing there. A settled channel owes nothing,
so its receiver knows everything.
-/

set_option autoImplicit false

universe u v

structure BatchedChannel (σ : Type u) (μ : Type v) where
  told : σ
  waiting : List μ

namespace BatchedChannel

variable {σ : Type u} {μ : Type v}

def new (initial : σ) : BatchedChannel σ μ :=
  { told := initial
    waiting := [] }

def queue (channel : BatchedChannel σ μ) (message : μ) : BatchedChannel σ μ :=
  { channel with waiting := channel.waiting ++ [message] }

def send (apply : σ → μ → σ) (channel : BatchedChannel σ μ) : BatchedChannel σ μ :=
  { told := channel.waiting.foldl apply channel.told
    waiting := [] }

def Settled (channel : BatchedChannel σ μ) : Prop := channel.waiting = []

def owed (apply : σ → μ → σ) (channel : BatchedChannel σ μ) : σ :=
  channel.waiting.foldl apply channel.told

section Rules

variable (apply : σ → μ → σ) (channel : BatchedChannel σ μ)

@[simp]
theorem queue_told (message : μ) : (channel.queue message).told = channel.told := rfl

@[simp]
theorem queue_owed (message : μ) :
    (channel.queue message).owed apply = apply (channel.owed apply) message := by
  simp only [owed, queue, List.foldl_append, List.foldl_cons, List.foldl_nil]

@[simp]
theorem send_told : (channel.send apply).told = channel.owed apply := rfl

theorem send_settled : (channel.send apply).Settled := rfl

variable {channel}

theorem Settled.owed (settled : channel.Settled) : channel.owed apply = channel.told := by
  unfold Settled at settled
  rw [BatchedChannel.owed, settled, List.foldl_nil]

/-- Sending again tells nothing new. -/
theorem Settled.send (settled : channel.Settled) : channel.send apply = channel := by
  obtain ⟨told, waiting⟩ := channel
  unfold Settled at settled
  simp only at settled
  subst settled
  rfl

end Rules

end BatchedChannel
