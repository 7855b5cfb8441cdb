/-! The receiving end of a broadcast channel, for a reader that does not look at the messages. -/
namespace Landscape.Broadcast

structure EventQueue where
  queued : Nat
  lagged : Bool
  deriving DecidableEq

def EventQueue.send (capacity : Nat) (q : EventQueue) : EventQueue :=
  if q.queued < capacity then { q with queued := q.queued + 1 } else { q with lagged := true }

def EventQueue.pending (q : EventQueue) : Bool := q.lagged || q.queued != 0

/-- `recv`: a `Lagged` error first, then the messages that are left. -/
def EventQueue.recv (q : EventQueue) : EventQueue :=
  if q.lagged then { q with lagged := false } else { q with queued := q.queued - 1 }

theorem send_pending (capacity : Nat) {q : EventQueue} : (q.send capacity).pending = true := by
  unfold EventQueue.send
  split <;> simp [EventQueue.pending]

theorem send_lagged {capacity : Nat} {q : EventQueue} (h : q.queued < capacity) :
    (q.send capacity).lagged = q.lagged := by
  simp [EventQueue.send, h]

end Landscape.Broadcast
