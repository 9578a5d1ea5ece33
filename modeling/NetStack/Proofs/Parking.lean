import NetStack.Socket.Backlog

/-!
# Parking several datagrams

A reader may park several datagrams on its way. What that does to a port's queue depends only on the
datagrams for that port: they come last, and as many of the oldest as the queue has no room for are
lost (`queue_parkAll`). Queues that are bounded stay so.
-/

namespace NetStack.Backlog

/-- Parking leaves the queues of other ports alone. -/
theorem queue_park_of_ne (backlog : Backlog) (datagram : Datagram) {port : UInt16}
    (h : port ≠ datagram.dport) : (backlog.park datagram).queue port = backlog.queue port := by
  have hne : (datagram.dport == port) = false := beq_eq_false_iff_ne.2 h.symm
  unfold park
  split
  · have hdrop := backlog.queue_dropOldest datagram.dport port
    rw [if_neg h] at hdrop
    rw [← hdrop]
    simp [queue, hne]
  · simp [queue, hne]

/-- The backlog after datagrams were parked one after another. -/
def parkAll (backlog : Backlog) (datagrams : List Datagram) : Backlog :=
  datagrams.foldl park backlog

@[simp] theorem parkAll_nil (backlog : Backlog) : backlog.parkAll [] = backlog := rfl

theorem parkAll_cons (backlog : Backlog) (datagram : Datagram) (datagrams : List Datagram) :
    backlog.parkAll (datagram :: datagrams) = (backlog.park datagram).parkAll datagrams := rfl

theorem parkAll_append (backlog : Backlog) (first later : List Datagram) :
    backlog.parkAll (first ++ later) = (backlog.parkAll first).parkAll later :=
  List.foldl_append

/-- Parking datagrams for other ports leaves a port's queue alone. -/
theorem queue_parkAll_of_forall_ne (backlog : Backlog) {datagrams : List Datagram} {port : UInt16}
    (h : ∀ datagram ∈ datagrams, datagram.dport ≠ port) :
    (backlog.parkAll datagrams).queue port = backlog.queue port := by
  induction datagrams generalizing backlog with
  | nil => rfl
  | cons datagram datagrams ih =>
    rw [parkAll_cons, ih _ fun other hother => h other (List.mem_cons_of_mem _ hother)]
    exact queue_park_of_ne _ _ (h datagram List.mem_cons_self).symm

/-- The number of datagrams that a queue has no room for when others come behind it. -/
def excess (queue arriving : List Datagram) : Nat :=
  queue.length + arriving.length - Host.socketBacklog

/-- The oldest datagrams, which a queue loses when others come behind it. -/
def lost (queue arriving : List Datagram) : List Datagram :=
  (queue ++ arriving).take (excess queue arriving)

/-- What a queue keeps when other datagrams come behind it. -/
def kept (queue arriving : List Datagram) : List Datagram :=
  (queue ++ arriving).drop (excess queue arriving)

/-- No queue is longer than it may be. -/
def Bounded (backlog : Backlog) : Prop :=
  ∀ port, (backlog.queue port).length ≤ Host.socketBacklog

/-- What parking a datagram does to its own port's queue, if that is bounded. -/
theorem queue_park_eq_kept (backlog : Backlog) (datagram : Datagram)
    (h : (backlog.queue datagram.dport).length ≤ Host.socketBacklog) :
    (backlog.park datagram).queue datagram.dport =
      kept (backlog.queue datagram.dport) [datagram] := by
  rw [queue_park]
  unfold kept excess isFull
  by_cases hfull : Host.socketBacklog ≤ (backlog.queue datagram.dport).length
  · have hlength : (backlog.queue datagram.dport).length = Host.socketBacklog :=
      Nat.le_antisymm h hfull
    have hpos : 1 ≤ (backlog.queue datagram.dport).length := by
      rw [hlength]
      decide
    rw [if_pos (decide_eq_true hfull), hlength, List.length_singleton, Nat.add_sub_cancel_left,
      List.drop_append_of_le_length hpos, List.drop_one]
  · have hexcess : (backlog.queue datagram.dport).length + [datagram].length -
        Host.socketBacklog = 0 := by
      rw [List.length_singleton]
      omega
    rw [if_neg (by simpa using hfull), hexcess, List.drop_zero]

/-- What is kept is not too long. -/
theorem length_kept_le (queue arriving : List Datagram) :
    (kept queue arriving).length ≤ Host.socketBacklog := by
  unfold kept excess
  rw [List.length_drop, List.length_append]
  omega

/-- Parking keeps the queues bounded. -/
theorem Bounded.park {backlog : Backlog} (h : backlog.Bounded) (datagram : Datagram) :
    (backlog.park datagram).Bounded := by
  intro port
  by_cases hport : port = datagram.dport
  · rw [hport, queue_park_eq_kept _ _ (h _)]
    exact length_kept_le _ _
  · rw [queue_park_of_ne _ _ hport]
    exact h port

/-- Parking several datagrams keeps the queues bounded. -/
theorem Bounded.parkAll {backlog : Backlog} (h : backlog.Bounded) (datagrams : List Datagram) :
    (backlog.parkAll datagrams).Bounded := by
  induction datagrams generalizing backlog with
  | nil => exact h
  | cons datagram datagrams ih => exact ih (h.park datagram)

/-- Dropping a port's oldest datagram keeps the queues bounded. -/
theorem Bounded.dropOldest {backlog : Backlog} (h : backlog.Bounded) (port : UInt16) :
    (backlog.dropOldest port).Bounded := by
  intro other
  rw [queue_dropOldest]
  split
  · rw [List.length_tail]
    exact Nat.le_trans (Nat.sub_le _ _) (h port)
  · exact h other

/-- Discarding a port's datagrams keeps the queues bounded. -/
theorem Bounded.discard {backlog : Backlog} (h : backlog.Bounded) (port : UInt16) :
    (backlog.discard port).Bounded := by
  intro other
  rw [queue_discard]
  split
  · exact Nat.zero_le _
  · exact h other

/-- A port's queue has nothing to take exactly when it is empty. -/
theorem take?_eq_none_iff (backlog : Backlog) (port : UInt16) :
    backlog.take? port = none ↔ backlog.queue port = [] := by
  unfold take?
  cases hqueue : backlog.queue port with
  | nil => simp
  | cons datagram rest => simp

/-- Taking a datagram leaves the backlog without the oldest of its port. -/
theorem eq_dropOldest_of_take? {backlog rest : Backlog} {port : UInt16} {datagram : Datagram}
    (h : backlog.take? port = some (datagram, rest)) : rest = backlog.dropOldest port := by
  unfold take? at h
  split at h
  · cases h
    rfl
  · cases h

end NetStack.Backlog
